import KeywordBridge.Proofs.Diagnostic.AlikePrograms
import KeywordBridge.Proofs.Diagnostic.Placement
import KeywordBridge.Proofs.Token.IndentedLines

/-!
# Programs moved to the right

A program may be moved to the right as a block, by putting the same number of spaces in
front of each of its lines. What is found at a place of a line moves along, and what
concerns a line as a whole stays at its first column. The indentation of blocks is not
affected as long as the spaces lead to a tab stop: tabs behind them then lead as far as
before. Since a diagnostic of a whole line comes before the others of its line in either
program, the order stays the same.
-/

namespace KeywordBridge

/-! ## Indented texts -/

namespace Text

/-- The program with all lines behind the same number of spaces. -/
def indentLines (width : Nat) (program : Text) : Text :=
  joinLines (program.lines.map (indent width))

theorem lines_indentLines (width : Nat) (program : Text) :
    (program.indentLines width).lines = program.lines.map (indent width) := by
  apply lines_joinLines
  · exact List.map_eq_nil_iff.not.2 program.lines_ne_nil
  · intro indented member
    obtain ⟨line, listed, rfl⟩ := List.mem_map.1 member
    rw [indent, List.mem_append, not_or]
    refine ⟨fun space => ?_, fun inLine => (mem_of_mem_cutAt listed inLine).2 rfl⟩
    exact absurd (List.eq_of_mem_replicate space) (by decide)

variable (width : Nat) (text : Text)

theorem length_indent : (text.indent width).length = text.length + width := by
  rw [indent, List.length_append, List.length_replicate, Nat.add_comm]

/-- The spaces in front of a line are not among the returns at its end. -/
theorem dropReturns_indent : (text.indent width).dropReturns = text.dropReturns.indent width := by
  cases width with
  | zero => rfl
  | succ width =>
      -- The last space is what the returns at the end stop at, should nothing else remain.
      have last (rest : Text) :
          rest.indent (width + 1) = List.replicate width ' ' ++ ' ' :: rest := by
        rw [indent, List.replicate_succ', List.append_assoc, List.singleton_append]
      rw [last, last, dropReturns, dropEndWhile_append_cons _ (by decide)]
      rfl

theorem isBlankChar_of_mem_spaces {c : Char} (member : c ∈ List.replicate width ' ') :
    isBlankChar c = true := by
  rw [List.eq_of_mem_replicate member]
  decide

theorem isBlank_indent : (text.indent width).isBlank = text.isBlank := by
  have spaces : (List.replicate width ' ').all isBlankChar = true :=
    List.all_eq_true.2 fun _ => isBlankChar_of_mem_spaces width
  rw [isBlank, indent, List.all_append, spaces, Bool.true_and, isBlank]

theorem trim_indent : (text.indent width).trim = text.trim := by
  rw [trim, indent, List.dropWhile_append_of_pos fun _ => isBlankChar_of_mem_spaces width, trim]

variable {text} in
theorem trimEnd_indent (visible : text.isBlank = false) :
    (text.indent width).trimEnd = text.trimEnd.indent width := by
  rw [isBlank, List.all_eq_false] at visible
  obtain ⟨c, member, visible⟩ := visible
  rw [Bool.not_eq_true] at visible
  obtain ⟨front, back, rfl⟩ := List.append_of_mem member
  rw [trimEnd, trimEnd, indent, ← List.append_assoc, dropEndWhile_append_cons _ visible,
    dropEndWhile_append_cons _ visible, List.append_assoc, indent]

end Text

/-- Behind a tab stop, tabs lead as far as at the start of a line. -/
theorem indentationFrom_add {width : Nat} (stop : tabWidth ∣ width) (column : Nat) (line : Text) :
    indentationFrom (column + width) line = indentationFrom column line + width := by
  obtain ⟨levels, rfl⟩ := stop
  induction line generalizing column with
  | nil => rfl
  | cons c rest ih =>
      rw [indentationFrom, indentationFrom]
      split
      · rw [Nat.add_right_comm, ih]
      · split
        · rw [Nat.add_mul_mod_self_left, Nat.add_right_comm, ih]
        · rfl

theorem indentation_indent {width : Nat} (stop : tabWidth ∣ width) (line : Text) :
    indentation (line.indent width) = indentation line + width := by
  have spaces (count column : Nat) :
      indentationFrom column (line.indent count) = indentationFrom (column + count) line := by
    induction count generalizing column with
    | zero => rfl
    | succ count ih =>
        rw [← Nat.add_assoc, Nat.add_right_comm, ← ih]
        rfl
  rw [indentation, spaces, indentationFrom_add stop, indentation]

/-! ## Diagnostics further to the right -/

/-- Does the problem concern its line as a whole, so that it is reported at the first
column whatever the place of the code? -/
def Problem.marksLine (problem : Problem) : Bool :=
  problem.number == 105 || problem.number == 106

theorem Problem.number_of_marksLine {problem : Problem} (marks : problem.marksLine = true) :
    problem.number ≤ 106 := by
  rw [marksLine, Bool.or_eq_true, beq_iff_eq, beq_iff_eq] at marks
  omega

theorem Problem.marksLine_of_number {problem : Problem} (high : 106 < problem.number) :
    problem.marksLine = false :=
  Bool.eq_false_iff.2 fun marks => Nat.not_lt_of_le (number_of_marksLine marks) high

namespace Diagnostic

/-- The same advice for a line that stands some columns further to the right. -/
def moveRight (width : Nat) (diagnostic : Diagnostic) : Diagnostic :=
  if diagnostic.problem.marksLine then diagnostic
  else
    { diagnostic with
      column := diagnostic.column + width
      endColumn := diagnostic.endColumn + width }

theorem moveRight_of_marksLine {diagnostic : Diagnostic}
    (marks : diagnostic.problem.marksLine = true) (width : Nat) :
    diagnostic.moveRight width = diagnostic :=
  if_pos marks

theorem moveRight_of_inLine {problem : Problem} (inLine : problem.marksLine = false)
    (width line column endColumn : Nat) :
    moveRight width ⟨line, column, endColumn, problem⟩ =
      ⟨line, column + width, endColumn + width, problem⟩ :=
  if_neg (Bool.eq_false_iff.1 inLine)

/-- Advice for a line as a whole is given at its first column, and other advice follows
it in the order of diagnostics. -/
structure IsPlaced (diagnostic : Diagnostic) : Prop where
  ofLine : diagnostic.problem.marksLine = true → diagnostic.column = 1
  inLine : diagnostic.problem.marksLine = false →
    1 < diagnostic.column ∨ diagnostic.column = 1 ∧ 106 < diagnostic.problem.number

/-- The order does not change on the way to the right. -/
theorem le_moveRight (width : Nat) {first second : Diagnostic} (isPlaced : first.IsPlaced)
    (isPlacedSecond : second.IsPlaced) :
    le (first.moveRight width) (second.moveRight width) = le first second := by
  obtain ⟨line, column, endColumn, problem⟩ := first
  obtain ⟨lineSecond, columnSecond, endColumnSecond, problemSecond⟩ := second
  obtain ⟨ofLine, inLine⟩ := isPlaced
  obtain ⟨ofLineSecond, inLineSecond⟩ := isPlacedSecond
  rw [Bool.eq_iff_iff, le_iff, le_iff]
  cases marks : problem.marksLine with
  | true =>
      have low := Problem.number_of_marksLine marks
      rw [moveRight_of_marksLine marks]
      cases marksSecond : problemSecond.marksLine with
      | true => rw [moveRight_of_marksLine marksSecond]
      | false =>
          -- The first comes before the second on the same line, wherever that moves.
          rw [moveRight_of_inLine marksSecond]
          have column := ofLine marks
          have behind := inLineSecond marksSecond
          simp only at column behind ⊢
          omega
  | false =>
      rw [moveRight_of_inLine marks]
      cases marksSecond : problemSecond.marksLine with
      | true =>
          have low := Problem.number_of_marksLine marksSecond
          rw [moveRight_of_marksLine marksSecond]
          have column := ofLineSecond marksSecond
          have behind := inLine marks
          simp only at column behind ⊢
          omega
      | false =>
          rw [moveRight_of_inLine marksSecond]
          simp only
          omega

end Diagnostic

namespace Table

variable (table : Table)

/-- A missing colon belongs to a place on its line. -/
theorem marksLine_of_mem_colonProblems {code : Text} {problem : Problem}
    (member : problem ∈ table.colonProblems code) : problem.marksLine = false := by
  have others : ∀ number ∈ [101, 102, 103, 104, 109],
      (number == 105 || number == 106) = false := by
    decide
  exact others _ ((table.numbers_colonProblems code).subset (List.mem_map_of_mem member))

variable {table} in
theorem number_of_tokenProblem? {token : Token} {problem : Problem}
    (found : table.tokenProblem? token = some problem) : 106 < problem.number := by
  unfold tokenProblem? at found
  split at found
  · obtain ⟨surface, -, rfl⟩ := Option.map_eq_some_iff.1 found
    exact Nat.lt_succ_self 106
  · cases found
    decide
  · cases found

theorem isPlaced_of_mem_lineDiagnostics {line : SourceLine} {following : List SourceLine}
    {diagnostic : Diagnostic} (member : diagnostic ∈ table.lineDiagnostics line following) :
    diagnostic.IsPlaced := by
  obtain ⟨written, ⟨-, colon | indentation⟩ | parentheses | tokens⟩ :=
    table.mem_lineDiagnostics.1 member
  · obtain ⟨problem, listed, rfl⟩ := List.mem_map.1 colon
    obtain ⟨c, inCode, -⟩ := SourceLine.exists_visible_of_hasCode written
    have inLine := table.marksLine_of_mem_colonProblems listed
    exact ⟨fun marks => Bool.noConfusion (inLine.symm.trans marks),
      fun _ => .inl (Nat.succ_lt_succ (List.length_pos_of_mem inCode))⟩
  · obtain ⟨next, -, rfl⟩ := table.exists_of_mem_indentationDiagnostics indentation
    exact ⟨fun _ => rfl, fun inLine => nomatch inLine⟩
  · rw [eq_of_mem_parenthesisDiagnostics parentheses]
    exact ⟨fun _ => rfl, fun inLine => nomatch inLine⟩
  · obtain ⟨token, isToken, problem, found, rfl⟩ := table.exists_of_mem_tokenDiagnostics tokens
    have high := number_of_tokenProblem? found
    refine ⟨fun marks => absurd high (Nat.not_lt_of_le (Problem.number_of_marksLine marks)),
      fun _ => ?_⟩
    rcases Nat.lt_or_eq_of_le (Lexeme.le_column_of_mem_place isToken) with behind | here
    · exact .inl behind
    · exact .inr ⟨here.symm, high⟩

end Table

/-! ## The lines of an indented program -/

namespace SourceLine

/-- The second line is the first one behind some spaces, as far as the checks see. -/
structure IndentedBy (width : Nat) (first second : SourceLine) : Prop where
  number : second.number = first.number
  mode : second.mode = first.mode
  text : second.text = first.text.indent width
  code : second.code = first.code.indent width
  tokens : Lexeme.checked first.number 1 second.lexemes =
    (Lexeme.checked first.number 1 first.lexemes).map (Token.moveRight width)

namespace IndentedBy

variable {width : Nat} {first second : SourceLine} (indented : first.IndentedBy width second)

include indented

theorem continuesString_eq : second.continuesString = first.continuesString := by
  rw [continuesString, indented.mode, continuesString]

theorem hasCode_eq : second.hasCode = first.hasCode := by
  rw [hasCode, indented.code, Text.isBlank_indent, hasCode]

theorem trim_eq : second.code.trim = first.code.trim := by
  rw [indented.code, Text.trim_indent]

theorem colonDiagnostics_eq (table : Table) (written : first.hasCode = true) :
    table.colonDiagnostics second =
      (table.colonDiagnostics first).map (Diagnostic.moveRight width) := by
  rw [hasCode, Bool.not_eq_true'] at written
  have column : second.code.trimEnd.length + 1 = first.code.trimEnd.length + 1 + width := by
    rw [indented.code, Text.trimEnd_indent width written, Text.length_indent, Nat.add_right_comm]
  rw [Table.colonDiagnostics, Table.colonDiagnostics, List.map_map, indented.trim_eq,
    indented.number, column]
  apply List.map_congr_left
  intro problem listed
  rw [Function.comp_apply,
    Diagnostic.moveRight_of_inLine (table.marksLine_of_mem_colonProblems listed),
    Nat.add_right_comm (first.code.trimEnd.length + 1)]

theorem parenthesisDiagnostics_eq :
    second.parenthesisDiagnostics =
      first.parenthesisDiagnostics.map (Diagnostic.moveRight width) := by
  have brackets (bracket : Char) : second.countBracket bracket = first.countBracket bracket := by
    rw [countBracket_eq_checked, countBracket_eq_checked, indented.number, indented.tokens,
      List.countP_map]
    rfl
  rw [parenthesisDiagnostics, parenthesisDiagnostics, brackets, brackets, indented.number,
    apply_ite (List.map (Diagnostic.moveRight width))]
  rfl

theorem tokenDiagnostics_eq (table : Table) :
    table.tokenDiagnostics second =
      (table.tokenDiagnostics first).map (Diagnostic.moveRight width) := by
  rw [table.tokenDiagnostics_eq_checked, table.tokenDiagnostics_eq_checked, indented.number,
    indented.tokens, List.filterMap_map, List.map_filterMap]
  apply List.filterMap_congr
  intro token _
  change (table.tokenProblem? token).map _ = _
  cases found : table.tokenProblem? token with
  | none => rfl
  | some problem =>
      have inLine := Problem.marksLine_of_number (Table.number_of_tokenProblem? found)
      rw [Option.map_some, Option.map_some, Option.map_some,
        Diagnostic.moveRight_of_inLine inLine, Token.endColumn, Token.endColumn,
        Nat.add_right_comm token.column]
      rfl

/-- A head looks for the next line with code. -/
theorem indentationDiagnostics_eq (table : Table) (stop : tabWidth ∣ width)
    {following others : List SourceLine}
    (next : nextOutside? others = (nextOutside? following).map (Prod.map id (· + width))) :
    table.indentationDiagnostics second others =
      (table.indentationDiagnostics first following).map (Diagnostic.moveRight width) := by
  rw [table.indentationDiagnostics_eq_next, table.indentationDiagnostics_eq_next, next,
    indented.trim_eq, indented.text, indentation_indent stop]
  split
  · cases nextOutside? following with
    | none => rfl
    | some place =>
        simp only [Option.map_some, Prod.map, Nat.add_lt_add_iff_right]
        split <;> rfl
  · rfl

theorem lineDiagnostics_eq (table : Table) (stop : tabWidth ∣ width)
    {following others : List SourceLine}
    (next : nextOutside? others = (nextOutside? following).map (Prod.map id (· + width))) :
    table.lineDiagnostics second others =
      (table.lineDiagnostics first following).map (Diagnostic.moveRight width) := by
  rw [Table.lineDiagnostics, Table.lineDiagnostics, indented.hasCode_eq]
  split
  · rename_i written
    rw [indented.continuesString_eq, indented.colonDiagnostics_eq table written,
      indented.indentationDiagnostics_eq table stop next, indented.parenthesisDiagnostics_eq,
      indented.tokenDiagnostics_eq, List.map_append, List.map_append,
      apply_ite (List.map (Diagnostic.moveRight width)), List.map_append, List.map_nil]
  · rfl

end IndentedBy

theorem nextOutside?_of_indentedBy {width : Nat} (stop : tabWidth ∣ width)
    {lines others : List SourceLine} (indented : lines.Forall₂ (IndentedBy width) others) :
    nextOutside? others = (nextOutside? lines).map (Prod.map id (· + width)) := by
  induction indented with
  | nil => rfl
  | cons here _ ih =>
      rw [nextOutside?, nextOutside?, List.find?_cons, List.find?_cons, here.hasCode_eq]
      split
      · rw [Option.bind_some, Option.bind_some, here.continuesString_eq, here.number, here.text,
          indentation_indent stop, apply_ite (Option.map (Prod.map id (· + width)))]
        rfl
      · exact ih

end SourceLine

namespace Table

variable {table : Table} {width : Nat}

theorem diagnose_of_indentedBy (stop : tabWidth ∣ width) {lines others : List SourceLine}
    (indented : lines.Forall₂ (SourceLine.IndentedBy width) others) :
    table.diagnose others = (table.diagnose lines).map (Diagnostic.moveRight width) := by
  induction indented with
  | nil => rfl
  | cons here behind ih =>
      have next := SourceLine.nextOutside?_of_indentedBy stop behind
      rw [diagnose, diagnose, here.lineDiagnostics_eq table stop next, ih, List.map_append]

/-- Lines behind spaces are read as lines behind spaces, since spaces change no mode. -/
theorem HasWordKeywords.readFrom_indent (words : table.HasWordKeywords) (width number : Nat)
    (mode : Mode) (lines : List Text) :
    (table.readFrom number mode lines).Forall₂ (SourceLine.IndentedBy width)
      (table.readFrom number mode (lines.map (Text.indent width))) := by
  have isWord := words.isWord_of_mem_surfaces
  induction lines generalizing number mode with
  | nil => exact .nil
  | cons line rest ih =>
      have next : (table.scanLine mode (line.dropReturns.indent width)).2 =
          (table.scanLine mode line.dropReturns).2 :=
        congrArg Mode.afterLine (mode_scanFrom_indent isWord mode width line.dropReturns)
      rw [List.map_cons, table.readFrom_cons, table.readFrom_cons, Text.dropReturns_indent, next]
      refine .cons ?_ (ih (number + 1) _)
      exact {
        number := rfl
        mode := rfl
        text := rfl
        code := source_filter_scanFrom_indent isWord mode width line.dropReturns
        tokens := checked_scanFrom_indent isWord mode number width line.dropReturns }

theorem HasWordKeywords.validate_indentLines (words : table.HasWordKeywords)
    (stop : tabWidth ∣ width) (program : Text) :
    table.validate (program.indentLines width) =
      (table.validate program).map (Diagnostic.moveRight width) := by
  have isPlaced : ∀ diagnostic ∈ table.diagnose (table.read program), diagnostic.IsPlaced := by
    intro diagnostic member
    obtain ⟨above, line, below, -, found⟩ := table.mem_diagnose.1 member
    exact table.isPlaced_of_mem_lineDiagnostics found
  have sorted : ((table.diagnose (table.read program)).mergeSort Diagnostic.le).map
      (Diagnostic.moveRight width) =
        ((table.diagnose (table.read program)).map (Diagnostic.moveRight width)).mergeSort
          Diagnostic.le := by
    apply List.map_mergeSort
    intro first listed second listedSecond
    exact (Diagnostic.le_moveRight width (isPlaced first listed)
      (isPlaced second listedSecond)).symm
  rw [validate, validate, sorted, read, Text.lines_indentLines,
    diagnose_of_indentedBy stop (words.readFrom_indent width 1 .code program.lines), read]

/-- A program that is moved to the right by some levels of indentation is reported for the
same, further to the right by as many columns, except that unbalanced parentheses and
missing indentation are still reported at the first column. -/
theorem validate_moveRight (program : Text) (levels : Nat) :
    default.validate (program.indentLines (4 * levels)) =
      (default.validate program).map (Diagnostic.moveRight (4 * levels)) :=
  default_hasWordKeywords.validate_indentLines (Nat.dvd_mul_right 4 levels) program

/-- Two spaces lead to no tab stop: the tab in front of the block leads less far behind
them. -/
example :
    default.validate "   ukuba a:\n\tb" = [] ∧
      default.validate (Text.indentLines 2 "   ukuba a:\n\tb") =
        [⟨2, 1, 2, .missingIndentation⟩] := by
  decide +kernel

end Table

end KeywordBridge
