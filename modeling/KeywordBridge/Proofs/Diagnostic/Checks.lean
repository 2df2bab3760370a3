import KeywordBridge.Diagnostic.Validation
import KeywordBridge.Proofs.Text.Lines

/-!
# Which check finds which problem

Missing colons and missing indentation concern the head of a block. Unbalanced
parentheses are found among the brackets of a line, target keywords and broken strings
among its tokens, and neither check looks at other lines. So in these respects a line
is reported for its own lexemes alone.
-/

namespace KeywordBridge

/-- Does the problem concern the head of a block? -/
def Problem.concernsHead : Problem → Bool
  | unbalancedParentheses | targetKeyword _ _ | brokenString => false
  | _ => true

/-- A line has code if more than blanks stands on it outside its comment. -/
theorem SourceLine.hasCode_of_mem {line : SourceLine} {lexeme : Lexeme}
    (listed : lexeme ∈ line.lexemes) (outside : lexeme.kind ≠ .comment)
    (visible : lexeme.value.isBlank = false) : line.hasCode = true := by
  have kept : lexeme ∈ line.lexemes.filter (·.kind != .comment) := by
    rw [List.mem_filter, bne_iff_ne]
    exact ⟨listed, outside⟩
  rw [hasCode, Bool.not_eq_true', Bool.eq_false_iff]
  intro blank
  rw [Text.isBlank, List.all_eq_true] at blank
  have blankLexeme : lexeme.value.isBlank = true := by
    rw [Text.isBlank, List.all_eq_true]
    intro c member
    exact blank c (List.mem_flatMap_of_mem kept member)
  rw [visible] at blankLexeme
  exact Bool.noConfusion blankLexeme

/-- A line with code has a visible character in front of the blanks at the end of the
code. -/
theorem SourceLine.exists_visible_of_hasCode {line : SourceLine} (written : line.hasCode = true) :
    ∃ c ∈ line.code.trimEnd, isBlankChar c = false := by
  rw [hasCode, Bool.not_eq_true', Text.isBlank, List.all_eq_false] at written
  obtain ⟨c, member, visible⟩ := written
  rw [Bool.not_eq_true] at visible
  rw [← Text.trimEnd_append_trailing line.code] at member
  rcases List.mem_append.1 member with inside | trailing
  · exact ⟨c, inside, visible⟩
  · rw [Text.isBlankChar_of_mem_trailing trailing] at visible
    cases visible

theorem eq_of_mem_parenthesisDiagnostics {line : SourceLine} {diagnostic : Diagnostic}
    (member : diagnostic ∈ line.parenthesisDiagnostics) :
    diagnostic = ⟨line.number, 1, 2, .unbalancedParentheses⟩ := by
  unfold SourceLine.parenthesisDiagnostics at member
  split at member
  · cases member
  · exact List.mem_singleton.1 member

namespace Table

variable (table : Table)

/-- What a line gives rise to is found by one of four checks, two of which leave out the
lines that continue a string. -/
theorem mem_lineDiagnostics {line : SourceLine} {following : List SourceLine}
    {diagnostic : Diagnostic} :
    diagnostic ∈ table.lineDiagnostics line following ↔
      line.hasCode = true ∧
        (line.continuesString = false ∧
            (diagnostic ∈ table.colonDiagnostics line ∨
              diagnostic ∈ table.indentationDiagnostics line following) ∨
          diagnostic ∈ line.parenthesisDiagnostics ∨
            diagnostic ∈ table.tokenDiagnostics line) := by
  unfold lineDiagnostics
  cases line.hasCode <;> cases line.continuesString <;> simp [or_assoc]

theorem concernsHead_of_mem_colonProblems {code : Text} {problem : Problem}
    (member : problem ∈ table.colonProblems code) : problem.concernsHead = true := by
  unfold colonProblems at member
  split at member
  · cases member
  · have single {held : Prop} [Decidable held] {found : Problem}
        (listed : problem ∈ if held then [found] else []) : problem = found := by
      split at listed
      · exact List.mem_singleton.1 listed
      · cases listed
    simp only [List.mem_append, Option.mem_toList, Option.map_eq_some_iff] at member
    rcases member with (((condition | bare) | function) | loop) | ⟨word, -, rfl⟩
    · rw [single condition]
      rfl
    · rw [single bare]
      rfl
    · rw [single function]
      rfl
    · rw [single loop]
      rfl
    · rfl

theorem concernsHead_of_mem_colonDiagnostics {line : SourceLine} {diagnostic : Diagnostic}
    (member : diagnostic ∈ table.colonDiagnostics line) :
    diagnostic.problem.concernsHead = true := by
  obtain ⟨problem, listed, rfl⟩ := List.mem_map.1 member
  exact table.concernsHead_of_mem_colonProblems listed

/-- Missing indentation is reported on the next line with code. -/
theorem indentationDiagnostics_eq (line : SourceLine) (following : List SourceLine) :
    table.indentationDiagnostics line following = [] ∨
      ∃ next, following.find? (·.hasCode) = some next ∧
        table.indentationDiagnostics line following =
          [⟨next.number, 1, 2, .missingIndentation⟩] := by
  unfold indentationDiagnostics
  split
  · split
    · exact .inl rfl
    · rename_i next found
      split
      · exact .inl rfl
      · exact .inr ⟨next, found, rfl⟩
  · exact .inl rfl

theorem exists_of_mem_indentationDiagnostics {line : SourceLine}
    {following : List SourceLine} {diagnostic : Diagnostic}
    (member : diagnostic ∈ table.indentationDiagnostics line following) :
    ∃ next, following.find? (·.hasCode) = some next ∧
      diagnostic = ⟨next.number, 1, 2, .missingIndentation⟩ := by
  rcases table.indentationDiagnostics_eq line following with none | ⟨next, found, one⟩
  · rw [none] at member
    cases member
  · rw [one] at member
    exact ⟨next, found, List.mem_singleton.1 member⟩

theorem concernsHead_of_mem_indentationDiagnostics {line : SourceLine}
    {following : List SourceLine} {diagnostic : Diagnostic}
    (member : diagnostic ∈ table.indentationDiagnostics line following) :
    diagnostic.problem.concernsHead = true := by
  obtain ⟨next, -, rfl⟩ := table.exists_of_mem_indentationDiagnostics member
  rfl

/-- What is found among the tokens of a line covers one of them. -/
theorem exists_of_mem_tokenDiagnostics {line : SourceLine} {diagnostic : Diagnostic}
    (member : diagnostic ∈ table.tokenDiagnostics line) :
    ∃ token ∈ line.tokens, ∃ problem, table.tokenProblem? token = some problem ∧
      diagnostic = ⟨line.number, token.column, token.endColumn, problem⟩ := by
  obtain ⟨token, isToken, found⟩ := List.mem_filterMap.1 member
  obtain ⟨problem, isProblem, same⟩ := Option.map_eq_some_iff.1 found
  exact ⟨token, isToken, problem, isProblem, same.symm⟩

theorem problem_of_mem_tokenDiagnostics {line : SourceLine} {diagnostic : Diagnostic}
    (member : diagnostic ∈ table.tokenDiagnostics line) :
    diagnostic.problem ≠ .unbalancedParentheses := by
  obtain ⟨token, -, problem, isProblem, rfl⟩ := table.exists_of_mem_tokenDiagnostics member
  rintro rfl
  unfold tokenProblem? at isProblem
  split at isProblem
  · obtain ⟨surface, -, same⟩ := Option.map_eq_some_iff.1 isProblem
    cases same
  · cases isProblem
  · cases isProblem

/-- Where the problems of heads are left out, those of parentheses and tokens remain. -/
theorem lineDiagnostics_filter {report : Diagnostic → Bool}
    (noHead : ∀ diagnostic, diagnostic.problem.concernsHead = true → report diagnostic = false)
    (line : SourceLine) (following : List SourceLine) :
    (table.lineDiagnostics line following).filter report =
      if line.hasCode then
        line.parenthesisDiagnostics.filter report ++ (table.tokenDiagnostics line).filter report
      else [] := by
  have noColon : (table.colonDiagnostics line).filter report = [] := by
    rw [List.filter_eq_nil_iff]
    intro diagnostic member
    rw [noHead diagnostic (table.concernsHead_of_mem_colonDiagnostics member)]
    exact Bool.false_ne_true
  have noIndentation : (table.indentationDiagnostics line following).filter report = [] := by
    rw [List.filter_eq_nil_iff]
    intro diagnostic member
    rw [noHead diagnostic (table.concernsHead_of_mem_indentationDiagnostics member)]
    exact Bool.false_ne_true
  rw [lineDiagnostics]
  split
  · rw [List.filter_append, List.filter_append]
    split
    · rfl
    · rw [List.filter_append, noColon, noIndentation]
      rfl
  · rfl

/-- Every diagnostic is found at a line, in front of the lines below. -/
theorem mem_diagnose {lines : List SourceLine} {diagnostic : Diagnostic} :
    diagnostic ∈ table.diagnose lines ↔
      ∃ above line below, lines = above ++ line :: below ∧
        diagnostic ∈ table.lineDiagnostics line below := by
  induction lines with
  | nil => simp [diagnose]
  | cons first following ih =>
      rw [diagnose, List.mem_append, ih]
      constructor
      · rintro (here | ⟨above, line, below, rfl, found⟩)
        · exact ⟨[], first, following, rfl, here⟩
        · exact ⟨first :: above, line, below, rfl, found⟩
      · rintro ⟨above, line, below, split, found⟩
        cases above with
        | nil =>
            obtain ⟨rfl, rfl⟩ := List.cons.inj split
            exact .inl found
        | cons other above =>
            obtain ⟨rfl, rest⟩ := List.cons.inj split
            exact .inr ⟨above, line, below, rest, found⟩

end Table

end KeywordBridge
