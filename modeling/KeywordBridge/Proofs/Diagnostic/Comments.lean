import KeywordBridge.Proofs.Diagnostic.AlikePrograms

/-!
# Comments do not change the diagnostics

A comment may be added behind any line that ends outside strings, even behind another
comment: whatever it holds, be it quotes, brackets or keywords, the same is reported.
-/

namespace KeywordBridge

namespace Text

/-- Is the text a comment, with nothing but spaces and tabs in front of it? -/
def IsComment (text : Text) : Prop :=
  ∃ blanks comment : Text, text = blanks ++ '#' :: comment ∧
    (∀ c ∈ blanks, c = ' ' ∨ c = '\t') ∧ '\n' ∉ comment

/-- The text with something added to the end of each line, by the number of the line. -/
def addToLines (added : Nat → Text) (text : Text) : Text :=
  joinLines (text.lines.mapIdx fun index line => line ++ added (index + 1))

theorem IsComment.newline_not_mem {text : Text} (isComment : text.IsComment) : '\n' ∉ text := by
  obtain ⟨blanks, comment, rfl, separators, oneLine⟩ := isComment
  rw [List.mem_append, List.mem_cons, not_or, not_or]
  refine ⟨fun member => ?_, by decide, oneLine⟩
  rcases separators _ member with same | same
  · cases same
  · cases same

/-- Behind the returns at the end of a line, a comment makes blanks of them. -/
theorem IsComment.exists_dropReturns {added : Text} (isComment : added.IsComment) (line : Text) :
    ∃ blanks comment, (line ++ added).dropReturns = line.dropReturns ++ (blanks ++ '#' :: comment) ∧
      ∀ c ∈ blanks, separates c = true := by
  obtain ⟨blanks, comment, rfl, separators, -⟩ := isComment
  refine ⟨line.returns ++ blanks, comment.dropReturns, ?_, ?_⟩
  · conv_lhs => rw [← dropReturns_append_returns line, ← List.append_assoc]
    rw [dropReturns, dropEndWhile_append_cons _ (by decide)]
    simp only [List.append_assoc]
    rfl
  · rw [List.forall_mem_append]
    refine ⟨fun c member => ?_, fun c member => ?_⟩
    · rw [eq_return_of_mem_returns member]
      decide
    · rcases separators c member with rfl | rfl
      · decide
      · decide

end Text

namespace Table

/-- Lines to which comments are added are read like the lines themselves. -/
theorem HasWordKeywords.linesAlike_addComments {table : Table} (words : table.HasWordKeywords)
    {added : Nat → Text} {mode : Mode} (start : mode.StartsLine) {lines : List Text}
    (oneLine : ∀ line ∈ lines, '\n' ∉ line) {number : Nat}
    (comments : ∀ line ∈ table.readFrom number mode lines, added line.number = [] ∨
      (added line.number).IsComment ∧ (∀ lexeme ∈ line.lexemes, lexeme.kind ≠ .brokenString) ∧
        (table.scanLine line.mode line.text).2 = .code) :
    table.LinesAlike mode lines
        (lines.mapIdx fun index line => line ++ added (number + index)) ∧
      ∀ line ∈ lines.mapIdx fun index line => line ++ added (number + index), '\n' ∉ line := by
  induction lines generalizing mode number with
  | nil => exact ⟨.nil mode, List.forall_mem_nil _⟩
  | cons line rest ih =>
      rw [List.forall_mem_cons] at oneLine
      rw [table.readFrom_cons, List.forall_mem_cons] at comments
      obtain ⟨here, below⟩ := comments
      have oneLineText : '\n' ∉ line.dropReturns := fun member =>
        oneLine.1 (Text.mem_of_mem_dropReturns member)
      obtain ⟨behind, oneLineBehind⟩ :=
        ih (words.startsLine_scanLine start oneLineText) oneLine.2 below
      have added_cons : ((line :: rest).mapIdx fun index line => line ++ added (number + index)) =
          (line ++ added number) ::
            rest.mapIdx fun index line => line ++ added (number + 1 + index) := by
        rw [List.mapIdx_cons, Nat.add_zero]
        simp only [Nat.add_assoc, Nat.add_comm 1]
      rw [added_cons, List.forall_mem_cons, List.mem_append, not_or]
      rcases here with none | ⟨isComment, whole, closed⟩
      · rw [show added number = [] from none, List.append_nil]
        exact ⟨.alike (.same _ _) behind, ⟨oneLine.1, List.not_mem_nil⟩, oneLineBehind⟩
      · refine ⟨.alike ?_ behind, ⟨oneLine.1, isComment.newline_not_mem⟩, oneLineBehind⟩
        obtain ⟨blanks, comment, dropped, separators⟩ := isComment.exists_dropReturns line
        have agrees := words.lineAgrees start oneLineText
        have ends : ((Zone.ofMode mode).scan 0 line.dropReturns).2 = .code ∨
            ((Zone.ofMode mode).scan 0 line.dropReturns).2 = .comment := by
          have next := agrees.mode.symm.trans closed
          have unbroken : ¬ ((Zone.ofMode mode).scan 0 line.dropReturns).2.breaksString = true := by
            intro breaks
            obtain ⟨earlier, last, split, broken, -⟩ := agrees.broken breaks
            exact whole last (split ▸ List.mem_append_right _ List.mem_cons_self) broken
          generalize ((Zone.ofMode mode).scan 0 line.dropReturns).2 = final at next unbroken
          cases final with
          | code => exact .inl rfl
          | comment => exact .inr rfl
          | inLine quote => exact absurd rfl unbroken
          | inTriple quote => cases next
        rw [dropped]
        exact Zone.readAlike_append ends separators comment

/-- Comments do not change the diagnostics: behind the lines that break off no string and
leave none open, they may be added at will. -/
theorem comments_irrelevant {program : Text} {added : Nat → Text}
    (comments : ∀ line ∈ default.read program, added line.number = [] ∨
      (added line.number).IsComment ∧ (∀ lexeme ∈ line.lexemes, lexeme.kind ≠ .brokenString) ∧
        (default.scanLine line.mode line.text).2 = .code) :
    default.validate (program.addToLines added) = default.validate program := by
  have uncut : ∀ line ∈ program.lines, '\n' ∉ line := fun line listed inside =>
    (Text.mem_of_mem_cutAt listed inside).2 rfl
  rw [read] at comments
  obtain ⟨alike, oneLine⟩ :=
    default_hasWordKeywords.linesAlike_addComments (.inl rfl) uncut comments
  have nonempty : (program.lines.mapIdx fun index line => line ++ added (1 + index)) ≠ [] := by
    rw [ne_eq, List.mapIdx_eq_nil_iff]
    exact program.lines_ne_nil
  have lines : (program.addToLines added).lines =
      program.lines.mapIdx fun index line => line ++ added (1 + index) := by
    rw [Text.addToLines]
    simp only [Nat.add_comm _ 1]
    exact Text.lines_joinLines nonempty oneLine
  rw [← lines] at alike
  exact default_hasWordKeywords.validate_of_linesAlike default_hasHeadsApart
    (by decide +kernel) alike

/-- Behind a head without its colon, behind the end of a docstring and on a blank line,
comments with quotes, a colon and brackets change nothing. -/
theorem comments_irrelevant_quotes :
    let program : Text := "ukuba (x)\n\"\"\"a\nb\"\"\"\r\n\nif"
    let added : Nat → Text := fun number =>
      if number = 1 then " # \"'):" else if number = 3 then "\t#'''" else
        if number = 4 then "  # (" else []
    program.addToLines added =
        "ukuba (x) # \"'):\n\"\"\"a\nb\"\"\"\r\t#'''\n  # (\nif" ∧
      default.validate program =
        [⟨1, 10, 11, .conditionWithoutColon⟩, ⟨5, 1, 3, .targetKeyword "ukuba" "if"⟩] ∧
      default.validate (program.addToLines added) = default.validate program := by
  intro program added
  have read : default.diagnose (default.read program) =
        [⟨1, 10, 11, .conditionWithoutColon⟩, ⟨5, 1, 3, .targetKeyword "ukuba" "if"⟩] ∧
      ∀ line ∈ default.read program, (∀ lexeme ∈ line.lexemes, lexeme.kind ≠ .brokenString) ∧
        (line.number ≠ 2 → (default.scanLine line.mode line.text).2 = .code) := by
    decide +kernel
  obtain ⟨found, closed⟩ := read
  have comments : ∀ line ∈ default.read program, added line.number = [] ∨
      (added line.number).IsComment ∧ (∀ lexeme ∈ line.lexemes, lexeme.kind ≠ .brokenString) ∧
        (default.scanLine line.mode line.text).2 = .code := by
    intro line listed
    obtain ⟨whole, ends⟩ := closed line listed
    by_cases first : line.number = 1
    · rw [first] at ends ⊢
      exact .inr ⟨⟨" ", " \"'):", rfl, List.forall_mem_singleton.2 (.inl rfl), by decide⟩, whole,
        ends (by decide)⟩
    · by_cases third : line.number = 3
      · rw [third] at ends ⊢
        exact .inr ⟨⟨"\t", "'''", rfl, List.forall_mem_singleton.2 (.inr rfl), by decide⟩, whole,
          ends (by decide)⟩
      · by_cases fourth : line.number = 4
        · rw [fourth] at ends ⊢
          exact .inr ⟨⟨"  ", " (", rfl,
            List.forall_mem_cons.2 ⟨.inl rfl, List.forall_mem_singleton.2 (.inl rfl)⟩, by decide⟩,
            whole, ends (by decide)⟩
        · left
          simp only [added, if_neg first, if_neg third, if_neg fourth]
  refine ⟨by decide +kernel, ?_, comments_irrelevant comments⟩
  rw [validate, found, List.mergeSort_of_pairwise (by decide)]

end Table

end KeywordBridge
