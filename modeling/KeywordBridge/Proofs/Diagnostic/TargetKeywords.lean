import KeywordBridge.Proofs.Diagnostic.Checks
import KeywordBridge.Proofs.Diagnostic.Order
import KeywordBridge.Proofs.Keyword.Lookup
import KeywordBridge.Proofs.Text.Lines
import KeywordBridge.Proofs.Token.Identifiers
import KeywordBridge.Proofs.Token.ProgramLines
import KeywordBridge.Proofs.Token.Recognition
import KeywordBridge.Proofs.Translation.WordReplacement

/-!
# Target keywords in a program

A name token that is a target keyword is reported with its surface keyword. The reports
of a program go through its lines from the first to the last and through each line from
left to right, so sorting leaves them in this order, and each of them covers its token.
In front of a reported word the text goes on with a word character in one case only: the
word follows the digits of a number.
-/

namespace KeywordBridge

theorem Problem.number_eq_targetKeyword {problem : Problem} :
    problem.number = 107 ↔ ∃ surface word, problem = .targetKeyword surface word := by
  constructor
  · intro number
    cases problem with
    | targetKeyword surface word => exact ⟨surface, word, rfl⟩
    | _ => cases number
  · rintro ⟨surface, word, rfl⟩
    rfl

/-- Is a target keyword reported? -/
def Diagnostic.reportsTarget (diagnostic : Diagnostic) : Bool :=
  diagnostic.problem.number = 107

/-- The characters of its line in front of a diagnostic. -/
def Diagnostic.front (program : Text) (diagnostic : Diagnostic) : Text :=
  (program.lines.getD (diagnostic.line - 1) []).take (diagnostic.column - 1)

/-- Does a diagnostic start directly behind a decimal digit? -/
def Diagnostic.isBehindDigit (program : Text) (diagnostic : Diagnostic) : Bool :=
  (diagnostic.front program).getLast?.any isDecimalDigit

namespace Table

variable (table : Table)

/-! ## The reports of a line -/

/-- The surface keyword that should stand in the place of a lexeme. -/
def replacement? (lexeme : Lexeme) : Option Text :=
  if lexeme.kind = .identifier then table.surfaceFor? lexeme.value else none

/-- The report of a lexeme that starts at a column. -/
def targetDiagnostic? (number column : Nat) (lexeme : Lexeme) : Option Diagnostic :=
  (table.replacement? lexeme).map fun surface =>
    ⟨number, column, column + lexeme.value.length, .targetKeyword surface lexeme.value⟩

/-- The target keywords among consecutive lexemes, the first of which starts at
`column`. -/
def targetDiagnostics (number : Nat) : (column : Nat) → List Lexeme → List Diagnostic
  | _, [] => []
  | column, lexeme :: others =>
      (table.targetDiagnostic? number column lexeme).toList
        ++ targetDiagnostics number (column + lexeme.value.length) others

variable {table}

theorem replacement?_eq_some {lexeme : Lexeme} {surface : Text} :
    table.replacement? lexeme = some surface ↔
      lexeme.kind = .identifier ∧ table.surfaceFor? lexeme.value = some surface := by
  rw [replacement?, Option.ite_none_right_eq_some]

theorem mem_targets_of_surfaceFor? {word surface : Text}
    (found : table.surfaceFor? word = some surface) : word ∈ table.targets := by
  obtain ⟨entry, listed, -, isTarget⟩ := surfaceFor?_eq_some_iff.1 found
  exact List.mem_map.2 ⟨entry, listed, isTarget⟩

/-- A target keyword is reported at its place behind the lexemes in front of it. -/
theorem mem_targetDiagnostics {number column : Nat} {lexemes : List Lexeme}
    {diagnostic : Diagnostic} :
    diagnostic ∈ table.targetDiagnostics number column lexemes ↔
      ∃ earlier lexeme later, lexemes = earlier ++ lexeme :: later ∧
        table.targetDiagnostic? number (column + (Lexeme.source earlier).length) lexeme =
          some diagnostic := by
  induction lexemes generalizing column with
  | nil =>
      refine iff_of_false List.not_mem_nil ?_
      rintro ⟨earlier, lexeme, later, split, -⟩
      exact List.append_ne_nil_of_right_ne_nil earlier (List.cons_ne_nil lexeme later) split.symm
  | cons first others ih =>
      rw [targetDiagnostics, List.mem_append, Option.mem_toList, ih]
      have behind (earlier : List Lexeme) :
          column + first.value.length + (Lexeme.source earlier).length =
            column + (Lexeme.source (first :: earlier)).length := by
        rw [Lexeme.source_cons, List.length_append, Nat.add_assoc]
      constructor
      · rintro (here | ⟨earlier, lexeme, later, rfl, found⟩)
        · exact ⟨[], first, others, rfl, here⟩
        · rw [behind] at found
          exact ⟨first :: earlier, lexeme, later, rfl, found⟩
      · rintro ⟨earlier, lexeme, later, split, found⟩
        cases earlier with
        | nil =>
            obtain ⟨rfl, rfl⟩ := List.cons.inj split
            exact .inl found
        | cons other earlier =>
            obtain ⟨rfl, rest⟩ := List.cons.inj split
            rw [← behind] at found
            exact .inr ⟨earlier, lexeme, later, rest, found⟩

theorem targetDiagnostic?_eq_some {number column : Nat} {lexeme : Lexeme}
    {diagnostic : Diagnostic}
    (found : table.targetDiagnostic? number column lexeme = some diagnostic) :
    diagnostic.line = number ∧ diagnostic.column = column ∧ diagnostic.problem.number = 107 := by
  obtain ⟨surface, -, rfl⟩ := Option.map_eq_some_iff.1 found
  exact ⟨rfl, rfl, rfl⟩

/-- The target keywords of a line are reported from left to right. -/
theorem pairwise_le_targetDiagnostics (number column : Nat) (lexemes : List Lexeme) :
    (table.targetDiagnostics number column lexemes).Pairwise
      fun first second => first.le second = true := by
  induction lexemes generalizing column with
  | nil => exact .nil
  | cons lexeme others ih =>
      rw [targetDiagnostics, List.pairwise_append]
      refine ⟨?_, ih _, fun first here second later => ?_⟩
      · cases table.targetDiagnostic? number column lexeme with
        | none => exact .nil
        | some diagnostic => exact List.pairwise_singleton _ _
      · obtain ⟨earlier, next, rest, -, found⟩ := mem_targetDiagnostics.1 later
        have ofFirst := targetDiagnostic?_eq_some (Option.mem_toList.1 here)
        have ofSecond := targetDiagnostic?_eq_some found
        rw [Diagnostic.le_iff]
        omega

/-- The check of the tokens reports the target keywords of the line. -/
theorem filter_tokenDiagnostics (number column : Nat) (lexemes : List Lexeme) :
    ((Lexeme.place number column lexemes).filterMap fun token =>
        (table.tokenProblem? token).map fun problem =>
          (⟨number, token.column, token.endColumn, problem⟩ : Diagnostic)).filter
        Diagnostic.reportsTarget =
      table.targetDiagnostics number column lexemes := by
  induction lexemes generalizing column with
  | nil => rfl
  | cons lexeme others ih =>
      rw [Lexeme.place, targetDiagnostics, ← ih, targetDiagnostic?, replacement?,
        List.filterMap_cons, tokenProblem?]
      cases lexeme.kind with
      | identifier =>
          rw [if_pos rfl]
          cases table.surfaceFor? lexeme.value with
          | none => rfl
          | some surface => rfl
      | _ => rfl

variable (words : table.HasWordKeywords)

include words

/-- Of the reports of a line, those of target keywords are what its lexemes give. -/
theorem HasWordKeywords.filter_lineDiagnostics (line : SourceLine) (following : List SourceLine) :
    (table.lineDiagnostics line following).filter Diagnostic.reportsTarget =
      table.targetDiagnostics line.number 1 line.lexemes := by
  have noParentheses : line.parenthesisDiagnostics.filter Diagnostic.reportsTarget = [] := by
    rw [List.filter_eq_nil_iff]
    intro diagnostic member
    rw [eq_of_mem_parenthesisDiagnostics member]
    exact Bool.false_ne_true
  have noHead : ∀ diagnostic : Diagnostic, diagnostic.problem.concernsHead = true →
      diagnostic.reportsTarget = false := by
    intro diagnostic head
    rw [Diagnostic.reportsTarget, decide_eq_false_iff_not, Problem.number_eq_targetKeyword]
    rintro ⟨surface, word, same⟩
    rw [same] at head
    cases head
  have ofTokens : (table.tokenDiagnostics line).filter Diagnostic.reportsTarget =
      table.targetDiagnostics line.number 1 line.lexemes :=
    filter_tokenDiagnostics line.number 1 line.lexemes
  rw [table.lineDiagnostics_filter noHead, noParentheses, List.nil_append, ofTokens]
  split
  · rfl
  · rename_i noCode
    -- A target keyword is code, so a line without code has none.
    apply Eq.symm
    rw [List.eq_nil_iff_forall_not_mem]
    intro diagnostic member
    obtain ⟨earlier, lexeme, later, split, found⟩ := mem_targetDiagnostics.1 member
    obtain ⟨surface, isSurface, -⟩ := Option.map_eq_some_iff.1 found
    obtain ⟨kind, isTarget⟩ := replacement?_eq_some.1 isSurface
    have listed : lexeme ∈ line.lexemes := by
      rw [split]
      exact List.mem_append_right _ List.mem_cons_self
    have outside : lexeme.kind ≠ .comment := by
      rw [kind]
      exact TokenKind.noConfusion
    have isWord := words.isWord_of_mem_targets _ (mem_targets_of_surfaceFor? isTarget)
    exact noCode (SourceLine.hasCode_of_mem listed outside (isBlank_of_isWord isWord))

theorem HasWordKeywords.filter_diagnose (lines : List SourceLine) :
    (table.diagnose lines).filter Diagnostic.reportsTarget =
      lines.flatMap fun line => table.targetDiagnostics line.number 1 line.lexemes := by
  induction lines with
  | nil => rfl
  | cons line following ih =>
      rw [diagnose, List.filter_append, words.filter_lineDiagnostics, ih, List.flatMap_cons]

/-! ## The reports of a program -/

omit words in
theorem pairwise_number_readFrom (number : Nat) (mode : Mode) (lines : List Text) :
    (table.readFrom number mode lines).Pairwise fun first second =>
      first.number < second.number := by
  induction lines generalizing number mode with
  | nil => exact .nil
  | cons line rest ih =>
      rw [readFrom_cons, List.pairwise_cons]
      refine ⟨fun later member => ?_, ih _ _⟩
      exact (table.number_of_mem_readFrom member).1

/-- The target keywords of a program are reported line by line. -/
theorem HasWordKeywords.filter_validate (program : Text) :
    (table.validate program).filter Diagnostic.reportsTarget =
      (table.read program).flatMap fun line =>
        table.targetDiagnostics line.number 1 line.lexemes := by
  have sorted : ((table.read program).flatMap fun line =>
      table.targetDiagnostics line.number 1 line.lexemes).Pairwise
        fun first second => first.le second = true := by
    rw [List.pairwise_flatMap]
    refine ⟨fun line _ => pairwise_le_targetDiagnostics line.number 1 line.lexemes, ?_⟩
    apply (pairwise_number_readFrom 1 .code program.lines).imp
    intro upper lower above first here second there
    obtain ⟨earlier, lexeme, later, -, found⟩ := mem_targetDiagnostics.1 here
    obtain ⟨before, other, behind, -, foundBelow⟩ := mem_targetDiagnostics.1 there
    apply Diagnostic.le_of_line_lt
    rwa [(targetDiagnostic?_eq_some found).1, (targetDiagnostic?_eq_some foundBelow).1]
  rw [← words.filter_diagnose] at sorted ⊢
  exact filter_mergeSort Diagnostic.le_trans Diagnostic.le_total sorted

/-- What is reported as a target keyword comes from the lexemes of one line. -/
theorem HasWordKeywords.mem_validate_iff {program : Text} {diagnostic : Diagnostic} :
    diagnostic ∈ table.validate program ∧ diagnostic.problem.number = 107 ↔
      ∃ line ∈ table.read program,
        diagnostic ∈ table.targetDiagnostics line.number 1 line.lexemes := by
  rw [← List.mem_flatMap, ← words.filter_validate, List.mem_filter, Diagnostic.reportsTarget,
    decide_eq_true_iff]

/-- What is reported as a target keyword is a name token on its line. -/
theorem HasWordKeywords.exists_of_mem_validate {program : Text} {diagnostic : Diagnostic}
    (reported : diagnostic ∈ table.validate program) (number : diagnostic.problem.number = 107) :
    ∃ index line mode earlier word later surface, program.lines[index]? = some line ∧
      mode ≠ .blanks ∧
      (table.scanLine mode line.dropReturns).1 = earlier ++ ⟨.identifier, word⟩ :: later ∧
      table.surfaceFor? word = some surface ∧
      diagnostic = ⟨1 + index, 1 + (Lexeme.source earlier).length,
        1 + (Lexeme.source earlier).length + word.length, .targetKeyword surface word⟩ := by
  obtain ⟨line, isLine, here⟩ := words.mem_validate_iff.1 ⟨reported, number⟩
  obtain ⟨index, text, isText, rfl⟩ := table.exists_of_mem_read isLine
  obtain ⟨earlier, ⟨kind, word⟩, later, split, found⟩ := mem_targetDiagnostics.1 here
  obtain ⟨surface, isSurface, rfl⟩ := Option.map_eq_some_iff.1 found
  obtain ⟨rfl, isTarget⟩ := replacement?_eq_some.1 isSurface
  have start := words.startsLine_take program index
  exact ⟨index, text, _, earlier, word, later, surface, isText, start.ne_blanks, split,
    isTarget, rfl⟩

/-! ## In front of a reported word -/

omit words in
/-- In front of a lexeme of a line stand the lexemes before it. -/
theorem front_eq_source {program line : Text} {index : Nat}
    (isLine : program.lines[index]? = some line) {mode : Mode} {earlier later : List Lexeme}
    (split : (table.scanLine mode line.dropReturns).1 = earlier ++ later) (endColumn : Nat)
    (problem : Problem) :
    Diagnostic.front program
      ⟨1 + index, 1 + (Lexeme.source earlier).length, endColumn, problem⟩ =
      Lexeme.source earlier := by
  have whole := Text.dropReturns_append_returns line
  have source := table.source_scanLine mode line.dropReturns
  rw [split, Lexeme.source_append] at source
  rw [Diagnostic.front, Nat.add_sub_cancel_left, Nat.add_sub_cancel_left,
    List.getD_eq_getElem?_getD, isLine, Option.getD_some, ← whole, ← source, List.append_assoc,
    List.take_left]

/-- What is reported as a target keyword follows a decimal digit if it continues a
word. -/
theorem HasWordKeywords.isBehindDigit_of_isWordSide {program : Text} {diagnostic : Diagnostic}
    (reported : diagnostic ∈ table.validate program) (number : diagnostic.problem.number = 107)
    (inside : Text.isWordSide (diagnostic.front program).getLast? = true) :
    diagnostic.isBehindDigit program = true := by
  obtain ⟨index, line, mode, earlier, word, later, surface, isLine, known, split, -, rfl⟩ :=
    words.exists_of_mem_validate reported number
  have listed := List.mem_of_getElem? isLine
  rw [Diagnostic.isBehindDigit]
  rw [front_eq_source isLine split] at inside ⊢
  rw [← Option.or_none (o := (Lexeme.source earlier).getLast?)] at inside ⊢
  apply cutsBehindDigit_of_identifier words.isWord_of_mem_surfaces known
    (Text.newline_not_mem_dropReturns listed) _ split inside
  intro none
  cases none

end Table

end KeywordBridge
