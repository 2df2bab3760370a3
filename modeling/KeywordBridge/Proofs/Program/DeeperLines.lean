import KeywordBridge.Program.Indentation
import KeywordBridge.Proofs.Text.Lines
import KeywordBridge.Proofs.Token.CodeCharacters
import KeywordBridge.Proofs.Token.CodePart

/-!
# Lines that ask for a deeper line

A deeper line should follow a line that ends with a colon outside a comment. While a
program is typed the tokens of the line are not looked at: any number sign in front of
the colon is taken for a comment. The two agree on every line without a number sign in a
string. A number sign in a string is the only reason for which they differ, since a
comment goes on to the end of its line, and a number sign of code starts one.
-/

namespace KeywordBridge

/-! ## Number signs in the reading of a line -/

namespace Zone

/-- A number sign is never read as code. -/
theorem region_read_numberSign (zone : Zone) (rest : Text) :
    (zone.read '#' rest).region ≠ .code := by
  cases zone with
  | code => exact Region.noConfusion
  | comment => exact Region.noConfusion
  | inLine quote => cases quote <;> exact Region.noConfusion
  | inTriple quote => cases quote <;> exact Region.noConfusion

/-- What is read as a comment leaves the reading in the comment. -/
theorem read_of_comment {zone : Zone} {c : Char} {rest : Text}
    (comment : (zone.read c rest).region = .comment) :
    zone.read c rest = ⟨.comment, .comment, 0⟩ := by
  cases zone with
  | code => grind [read]
  | comment => rfl
  | inLine quote => grind [read]
  | inTriple quote => grind [read]

/-- So no number sign of a line is a character of code. -/
theorem region_ne_code_of_numberSign {zone : Zone} {held index : Nat} {text : Text}
    (sign : text[index]? = some '#') : (zone.scan held text).1[index]? ≠ some .code := by
  induction text generalizing zone held index with
  | nil => cases sign
  | cons c rest ih =>
      cases held with
      | succ held =>
          cases index with
          | zero => exact fun same => Region.noConfusion (Option.some.inj same)
          | succ index => exact ih sign
      | zero =>
          cases index with
          | zero =>
              obtain rfl : c = '#' := Option.some.inj sign
              exact fun same => zone.region_read_numberSign rest (Option.some.inj same)
          | succ index => exact ih sign

/-- A comment goes on to the end of the line. -/
theorem comment_of_le {zone : Zone} {held first last : Nat} {text : Text} (le : first ≤ last)
    (inside : last < text.length) (comment : (zone.scan held text).1[first]? = some .comment) :
    (zone.scan held text).1[last]? = some .comment := by
  induction text generalizing zone held first last with
  | nil => exact absurd inside (Nat.not_lt_zero last)
  | cons c rest ih =>
      have behind {last : Nat} (inside : last + 1 < (c :: rest).length) : last < rest.length :=
        Nat.lt_of_succ_lt_succ inside
      cases held with
      | succ held =>
          obtain ⟨first, rfl⟩ : ∃ before, first = before + 1 := by
            refine Nat.exists_eq_succ_of_ne_zero ?_
            rintro rfl
            exact Region.noConfusion (Option.some.inj comment)
          obtain ⟨last, rfl⟩ := Nat.exists_eq_succ_of_ne_zero (Nat.ne_zero_of_lt le)
          exact ih (Nat.le_of_succ_le_succ le) (behind inside) comment
      | zero =>
          cases last with
          | zero =>
              obtain rfl : first = 0 := Nat.le_zero.1 le
              exact comment
          | succ last =>
              cases first with
              | succ first => exact ih (Nat.le_of_succ_le_succ le) (behind inside) comment
              | zero =>
                  have begun := read_of_comment (Option.some.inj comment)
                  rw [scan_cons, begun, prepend, scan_comment]
                  exact List.getElem?_replicate_of_lt (behind inside)

/-- A line without a number sign has no comment. -/
theorem comment_not_mem_scan {zone : Zone} {held : Nat} {text : Text}
    (outside : zone ≠ .comment) (unsigned : '#' ∉ text) :
    .comment ∉ (zone.scan held text).1 := by
  induction text generalizing zone held with
  | nil => exact List.not_mem_nil
  | cons c rest ih =>
      rw [List.mem_cons, not_or] at unsigned
      cases held with
      | succ held =>
          exact List.not_mem_cons_of_ne_of_not_mem Region.noConfusion (ih outside unsigned.2)
      | zero =>
          rcases read_cases outside c rest with ⟨region, zone⟩ | ⟨-, sign, -⟩
          · exact List.not_mem_cons_of_ne_of_not_mem region.symm (ih zone unsigned.2)
          · exact absurd sign.symm unsigned.1

theorem length_scan (zone : Zone) (held : Nat) (text : Text) :
    (zone.scan held text).1.length = text.length := by
  induction text generalizing zone held with
  | nil => rfl
  | cons c rest ih =>
      cases held with
      | zero => exact congrArg (· + 1) (ih _ _)
      | succ held => exact congrArg (· + 1) (ih _ _)

/-- In a line without number signs behind a place there is none at all exactly if no comment
is read at the place and no number sign in a string. -/
theorem numberSign_not_mem_iff {text : Text} {place : Nat} (inside : place < text.length)
    (last : ∀ index : Nat, text[index]? = some '#' → index ≤ place) :
    '#' ∉ text ↔ ¬ (code.scan 0 text).1[place]? = some .comment ∧
      ¬ ∃ index : Nat, text[index]? = some '#' ∧
        (code.scan 0 text).1[index]? = some .string := by
  constructor
  · intro unsigned
    have noComment : Region.comment ∉ (code.scan 0 text).1 :=
      comment_not_mem_scan Zone.noConfusion unsigned
    exact ⟨fun comment => noComment (List.mem_of_getElem? comment),
      fun ⟨_, sign, _⟩ => unsigned (List.mem_of_getElem? sign)⟩
  · rintro ⟨outside, noString⟩ member
    obtain ⟨index, sign⟩ := List.mem_iff_getElem?.1 member
    have within : index < (code.scan 0 text).1.length := by
      rw [length_scan]
      exact (List.getElem?_eq_some_iff.1 sign).1
    have read := List.getElem?_eq_getElem within
    cases region : (code.scan 0 text).1[index] with
    | code => exact region_ne_code_of_numberSign sign (region ▸ read)
    | string => exact noString ⟨index, sign, region ▸ read⟩
    | comment => exact outside (comment_of_le (last index sign) inside (region ▸ read))

end Zone

/-- The characters of the tokens in a region are those that are read in it. -/
theorem LineAgrees.exists_mem_value_iff {lexemes : List Lexeme} {final : Mode}
    {reading : List Region × Zone} (agrees : LineAgrees lexemes final reading) (number : Int)
    (region : Region) (c : Char) :
    (∃ token ∈ Lexeme.place number 1 lexemes, token.kind.region = region ∧ c ∈ token.value) ↔
      ∃ index : Nat, (Lexeme.source lexemes)[index]? = some c ∧
        reading.1[index]? = some region := by
  have values := Lexeme.place_values number 1 lexemes
  calc
    _ ↔ ∃ lexeme ∈ lexemes, lexeme.kind.region = region ∧ c ∈ lexeme.value := by
      conv_rhs => rw [← values]
      simp only [List.mem_map, exists_exists_and_eq_and]
    _ ↔ (c, region) ∈ lexemes.flatMap Lexeme.classified := by
      simp only [List.mem_flatMap, Lexeme.classified, List.mem_map, Prod.mk.injEq]
      grind
    _ ↔ _ := by
      rw [← Lexeme.zip_regions, agrees.regions, List.mem_iff_getElem?]
      simp only [List.getElem?_zip_eq_some]

/-! ## The colon at the end of a line -/

/-- While a program is typed, a line asks for a deeper line if it ends with a colon and
holds no number sign at all. -/
theorem asksForIndent_iff_numberSign {line : Text} (oneLine : '\n' ∉ line) :
    asksForIndent line = true ↔ line.trimEnd.getLast? = some ':' ∧ '#' ∉ line := by
  rw [asksForIndent, Bool.and_eq_true, beq_iff_eq, List.all_eq_true]
  refine and_congr_right fun colon => ?_
  have parts : line = line.trimEnd.dropLast ++ ':' :: line.trailing := by
    rw [← List.concat_append, List.concat_eq_append, List.dropLast_append_getLast? ':' colon,
      Text.trimEnd_append_trailing]
  have member (c : Char) :
      c ∈ line ↔ c ∈ line.trimEnd.dropLast ∨ c = ':' ∨ c ∈ line.trailing := by
    conv_lhs => rw [parts, List.mem_append, List.mem_cons]
  constructor
  · intro plain sign
    rcases (member '#').1 sign with early | colon | late
    · have other := plain '#' early
      revert other
      decide
    · revert colon
      decide
    · have blank := Text.isBlankChar_of_mem_trailing late
      revert blank
      decide
  · intro unsigned c early
    have inside := (member c).2 (.inl early)
    rw [Bool.and_eq_true, bne_iff_ne, bne_iff_ne]
    exact ⟨fun same => unsigned (same ▸ inside), fun same => oneLine (same ▸ inside)⟩

/-- The place of the colon that a line ends with. No number sign stands behind it. -/
theorem exists_place_of_colon {text : Text} (colon : text.trimEnd.getLast? = some ':') :
    ∃ place, place < text.length ∧ text.trimEnd.length = place + 1 ∧
      ∀ index : Nat, text[index]? = some '#' → index ≤ place := by
  obtain ⟨front, content⟩ := List.getLast?_eq_some_iff.1 colon
  have length : text.trimEnd.length = front.length + 1 := by
    rw [content, List.length_append, List.length_singleton]
  have split := text.trimEnd_append_trailing
  have short : text.trimEnd.length ≤ text.length := by
    conv_rhs => rw [← split, List.length_append]
    exact Nat.le_add_right _ _
  refine ⟨front.length, Nat.lt_of_lt_of_le (by omega) short, length, fun index sign => ?_⟩
  by_contra behind
  rw [← split, List.getElem?_append_right (by omega)] at sign
  have blank := Text.isBlankChar_of_mem_trailing (List.mem_of_getElem? sign)
  revert blank
  decide

namespace Table

/-- Does the line end with a colon outside its comment, blanks aside? -/
def EndsWithCodeColon (table : Table) (line : Text) : Prop :=
  line.trimEnd.getLast? = some ':' ∧
    ¬ ∃ token ∈ (table.tokenizeLine .code 1 line).1,
      token.Covers line.trimEnd.length ∧ token.kind = .comment

instance (table : Table) (line : Text) : Decidable (table.EndsWithCodeColon line) :=
  inferInstanceAs (Decidable (_ ∧ _))

/-- While a program is typed, a line asks for a deeper line exactly if it ends with a colon
outside its comment and no string on it holds a number sign. -/
theorem deeperLine_recognition {line : Text} (oneLine : '\n' ∉ line) :
    asksForIndent line = true ↔ default.EndsWithCodeColon line ∧
      ¬ ∃ token ∈ (default.tokenizeLine .code 1 line).1,
        token.kind ∈ [TokenKind.string, .escape, .brokenString] ∧ '#' ∈ token.value := by
  have agrees := default_hasWordKeywords.lineAgrees (.inl rfl) oneLine
  have source : Lexeme.source (default.scanLine .code line).1 = line :=
    source_scanFrom default.surfaces .code none line
  have isString (kind : TokenKind) :
      kind ∈ [TokenKind.string, .escape, .brokenString] ↔ kind.region = .string := by
    cases kind <;> decide
  have isComment (kind : TokenKind) : kind = .comment ↔ kind.region = .comment := by
    cases kind <;> decide
  rw [asksForIndent_iff_numberSign oneLine, EndsWithCodeColon, and_assoc]
  refine and_congr_right fun colon => ?_
  obtain ⟨place, inside, length, last⟩ := exists_place_of_colon colon
  have covered := agrees.covers_iff 1 .comment place
  have signs := agrees.exists_mem_value_iff 1 .string '#'
  rw [source] at signs
  rw [Zone.numberSign_not_mem_iff inside last, length]
  simp only [isString, isComment]
  exact and_congr (not_congr covered.symm) (not_congr signs.symm)

/-- Behind a string with an escaped quote and in front of blanks, the colon is seen. -/
theorem deeperLine_recognition_escape :
    let line : Text := "ngexesha s != 'i\\'n': \t"
    '\n' ∉ line ∧ asksForIndent line = true ∧ default.EndsWithCodeColon line ∧
      ¬ ∃ token ∈ (default.tokenizeLine .code 1 line).1,
        token.kind ∈ [TokenKind.string, .escape, .brokenString] ∧ '#' ∈ token.value := by
  intro line
  have oneLine : '\n' ∉ line := by decide
  have asks : asksForIndent line = true := by decide +kernel
  exact ⟨oneLine, asks, (deeperLine_recognition oneLine).1 asks⟩

/-- Behind a string that holds a number sign, the colon ends the line outside a comment,
but no deeper line is asked for. -/
theorem exists_codeColon_without_deeperLine :
    ∃ line : Text, '\n' ∉ line ∧ default.EndsWithCodeColon line ∧ asksForIndent line = false :=
  ⟨"ukuba s == \"#\":", by decide +kernel⟩

end Table

end KeywordBridge
