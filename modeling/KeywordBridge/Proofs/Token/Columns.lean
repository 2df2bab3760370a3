import KeywordBridge.Proofs.Token.Quotes

/-!
# The columns of a line

The lexemes of a line are placed one after the other. So every column of the line
lies in exactly one token, which is the one whose lexeme holds the character
there.
-/

namespace KeywordBridge

/-- Does the token cover the column? -/
def Token.Covers (token : Token) (column : Nat) : Prop :=
  token.column ≤ column ∧ column < token.endColumn

instance (token : Token) (column : Nat) : Decidable (token.Covers column) :=
  inferInstanceAs (Decidable (_ ∧ _))

namespace Lexeme

theorem source_cons (lexeme : Lexeme) (others : List Lexeme) :
    source (lexeme :: others) = lexeme.value ++ source others :=
  List.flatMap_cons

theorem source_append (first second : List Lexeme) :
    source (first ++ second) = source first ++ source second :=
  List.flatMap_append

theorem place_append (line : Int) (column : Nat) (first second : List Lexeme) :
    place line column (first ++ second) =
      place line column first ++ place line (column + (source first).length) second := by
  induction first generalizing column with
  | nil => rfl
  | cons lexeme others ih =>
      rw [List.cons_append, place, ih, place, source_cons, List.length_append, Nat.add_assoc,
        List.cons_append]

/-- A token stands behind the lexemes in front of its own. -/
theorem exists_split_of_mem_place {line : Int} {column : Nat} {lexemes : List Lexeme}
    {token : Token} (member : token ∈ place line column lexemes) :
    ∃ earlier later, lexemes = earlier ++ ⟨token.kind, token.value⟩ :: later ∧
      token.column = column + (source earlier).length := by
  induction lexemes generalizing column with
  | nil => cases member
  | cons lexeme others ih =>
      rcases List.mem_cons.1 member with rfl | behind
      · exact ⟨[], others, rfl, rfl⟩
      · obtain ⟨earlier, later, rfl, place⟩ := ih behind
        refine ⟨lexeme :: earlier, later, rfl, ?_⟩
        rw [place, source_cons, List.length_append, Nat.add_assoc]

theorem mem_place_of_split (line : Int) (column : Nat) (earlier : List Lexeme)
    (lexeme : Lexeme) (later : List Lexeme) :
    ⟨lexeme.kind, lexeme.value, line, column + (source earlier).length⟩ ∈
      place line column (earlier ++ lexeme :: later) := by
  rw [place_append, place]
  exact List.mem_append_right _ List.mem_cons_self

theorem mem_of_mem_place {line : Int} {column : Nat} {lexemes : List Lexeme} {token : Token}
    (member : token ∈ place line column lexemes) : ⟨token.kind, token.value⟩ ∈ lexemes := by
  obtain ⟨earlier, later, rfl, -⟩ := exists_split_of_mem_place member
  exact List.mem_append_right earlier List.mem_cons_self

/-- Wherever a text is cut in front of a character, the cut goes through the lexeme
of that character. -/
theorem exists_split_of_source {lexemes : List Lexeme} {front back : Text}
    (cut : source lexemes = front ++ back) (inside : back ≠ []) :
    ∃ earlier lexeme later head tail, lexemes = earlier ++ lexeme :: later ∧
      front = source earlier ++ head ∧ lexeme.value = head ++ tail ∧ tail ≠ [] ∧
      back = tail ++ source later := by
  induction lexemes generalizing front with
  | nil => exact absurd (List.append_eq_nil_iff.1 cut.symm).2 inside
  | cons lexeme others ih =>
      rw [source_cons] at cut
      by_cases passed : lexeme.value <+: front
      · obtain ⟨rest, rfl⟩ := passed
        rw [List.append_assoc] at cut
        obtain ⟨earlier, found, later, head, tail, rfl, rfl, split, nonempty, behind⟩ :=
          ih (List.append_cancel_left cut)
        refine ⟨lexeme :: earlier, found, later, head, tail, rfl, ?_, split, nonempty, behind⟩
        rw [source_cons, List.append_assoc]
      · rcases List.append_eq_append_iff.1 cut with ⟨rest, rfl, -⟩ | ⟨tail, split, behind⟩
        · exact absurd (List.prefix_append lexeme.value rest) passed
        · refine ⟨[], lexeme, others, front, tail, rfl, rfl, split, ?_, behind⟩
          rintro rfl
          rw [List.append_nil] at split
          exact passed ⟨[], by rw [List.append_nil, split]⟩

theorem flatMap_place (image : TokenKind → Text → Text) (line : Int) (column : Nat)
    (lexemes : List Lexeme) :
    (place line column lexemes).flatMap (fun token => image token.kind token.value) =
      lexemes.flatMap fun lexeme => image lexeme.kind lexeme.value := by
  have values := place_values line column lexemes
  rw [← congrArg (List.flatMap fun lexeme => image lexeme.kind lexeme.value) values,
    List.flatMap_map]

theorem countP_place (p : TokenKind → Bool) (line : Int) (column : Nat)
    (lexemes : List Lexeme) :
    (place line column lexemes).countP (fun token => p token.kind) =
      lexemes.countP (fun lexeme => p lexeme.kind) := by
  induction lexemes generalizing column with
  | nil => rfl
  | cons lexeme others ih => rw [place, List.countP_cons, List.countP_cons, ih]

/-- No token of consecutive lexemes starts in front of them. -/
theorem le_column_of_mem_place {line : Int} {column : Nat} {lexemes : List Lexeme}
    {token : Token} (member : token ∈ place line column lexemes) : column ≤ token.column := by
  induction lexemes generalizing column with
  | nil => cases member
  | cons lexeme others ih =>
      rcases List.mem_cons.1 member with rfl | later
      · exact Nat.le_refl column
      · have behind := ih later
        omega

/-- A token of a kind that lies in a region covers a column exactly if the
character there lies in it. -/
theorem exists_covers_place (line : Int) (column : Nat) (lexemes : List Lexeme)
    (region : Region) (index : Nat) :
    (∃ token ∈ place line column lexemes,
        token.Covers (column + index) ∧ token.kind.region = region) ↔
      (lexemes.flatMap regions)[index]? = some region := by
  induction lexemes generalizing column index with
  | nil => simp [place]
  | cons lexeme others ih =>
      have length : lexeme.regions.length = lexeme.value.length := List.length_replicate
      rw [place, List.flatMap_cons]
      simp only [List.mem_cons, exists_eq_or_imp, Token.Covers, Token.endColumn]
      by_cases inside : index < lexeme.value.length
      · rw [List.getElem?_append_left (by rwa [length]), regions,
          List.getElem?_replicate_of_lt inside, Option.some_inj]
        constructor
        · rintro (⟨-, same⟩ | ⟨token, member, ⟨starts, -⟩, -⟩)
          · exact same
          · have behind := le_column_of_mem_place member
            omega
        · intro same
          exact .inl ⟨⟨Nat.le_add_right column index, Nat.add_lt_add_left inside column⟩, same⟩
      · rw [Nat.not_lt] at inside
        obtain ⟨offset, rfl⟩ := Nat.exists_eq_add_of_le inside
        have behind := ih (column + lexeme.value.length) offset
        simp only [Token.Covers, Token.endColumn] at behind
        rw [List.getElem?_append_right (by rw [length]; exact inside), length,
          Nat.add_sub_cancel_left, ← behind, ← Nat.add_assoc]
        constructor
        · rintro (⟨⟨-, ends⟩, -⟩ | covered)
          · omega
          · exact covered
        · exact .inr

end Lexeme

end KeywordBridge
