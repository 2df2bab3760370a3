import KeywordBridge.Proofs.Diagnostic.Composition
import KeywordBridge.Proofs.Diagnostic.TargetKeywords
import Mathlib.Data.List.Flatten
import Mathlib.Data.List.Nodup

/-!
# The places of diagnostics

Every diagnostic lies on a line of the program with something on it, starts on this
line or one column behind its end, and covers at least one column. No two of them are
of the same kind at the same place: a check of the head of a line finds each kind at
most once, the tokens of a line stand at different columns, and two heads of blocks
never blame the same line, since the line that the upper one blames is not below the
lower one. So the list of diagnostics rises strictly by line, column and code.
-/

namespace KeywordBridge

/-- In a list without repetition, a condition that only one element can meet leaves this
element or nothing. -/
theorem filter_eq_of_nodup {α : Type} [DecidableEq α] {items : List α} (nodup : items.Nodup)
    {p : α → Bool} {item : α} (only : ∀ other ∈ items, p other = true ↔ other = item) :
    items.filter p = if item ∈ items then [item] else [] := by
  have same : items.filter p = items.filter (· == item) := by
    apply List.filter_congr
    intro other listed
    rw [Bool.eq_iff_iff, only other listed, beq_iff_eq]
  rw [same, List.filter_beq, nodup.count]
  split <;> rfl

/-! ## The strict order -/

namespace Problem

theorem number_mem (problem : Problem) : problem.number ∈ List.range' 101 9 := by
  rw [List.mem_range'_1]
  cases problem <;> simp [number]

/-- Codes are ordered as texts the way their numbers are. -/
theorem code_lt_iff (first second : Problem) :
    first.code < second.code ↔ first.number < second.number := by
  have listed : ∀ lower ∈ List.range' 101 9, ∀ upper ∈ List.range' 101 9,
      'E' :: Text.ofNat lower < 'E' :: Text.ofNat upper ↔ lower < upper := by
    decide +kernel
  exact listed _ first.number_mem _ second.number_mem

end Problem

namespace Diagnostic

/-- The diagnostic comes strictly before the other one by line, column and code. -/
def Precedes (first second : Diagnostic) : Prop :=
  first.line < second.line ∨ first.line = second.line ∧
    (first.column < second.column ∨ first.column = second.column ∧
      first.problem.code < second.problem.code)

/-- The diagnostics differ in their lines, their columns or their kinds. -/
def DiffersFrom (first second : Diagnostic) : Prop :=
  first.line = second.line → first.column = second.column →
    first.problem.number ≠ second.problem.number

instance : Std.Symm DiffersFrom where
  symm _ _ differs line column number := differs line.symm column.symm number.symm

theorem differsFrom_of_number_ne {first second : Diagnostic}
    (other : first.problem.number ≠ second.problem.number) : first.DiffersFrom second :=
  fun _ _ => other

theorem differsFrom_of_line_lt {first second : Diagnostic} (above : first.line < second.line) :
    first.DiffersFrom second :=
  fun line => absurd line (Nat.ne_of_lt above)

theorem DiffersFrom.ne {first second : Diagnostic} (differs : first.DiffersFrom second) :
    first ≠ second := by
  rintro rfl
  exact differs rfl rfl rfl

/-- Different diagnostics in order are in strict order. -/
theorem precedes_of_le {first second : Diagnostic} (ordered : le first second = true)
    (differs : first.DiffersFrom second) : first.Precedes second := by
  rw [le_iff] at ordered
  rw [Precedes, Problem.code_lt_iff]
  rcases ordered with above | ⟨line, left | ⟨column, number⟩⟩
  · exact .inl above
  · exact .inr ⟨line, .inl left⟩
  · exact .inr ⟨line, .inr ⟨column, Nat.lt_of_le_of_ne number (differs line column)⟩⟩

/-- The diagnostics of a list differ from each other, and their kinds are among those
with the given numbers. -/
structure DifferWithin (numbers : List Nat) (diagnostics : List Diagnostic) : Prop where
  differ : diagnostics.Pairwise DiffersFrom
  kinds : ∀ diagnostic ∈ diagnostics, diagnostic.problem.number ∈ numbers

namespace DifferWithin

theorem nil (numbers : List Nat) : DifferWithin numbers [] :=
  ⟨.nil, fun _ member => nomatch member⟩

theorem singleton {diagnostic : Diagnostic} {number : Nat}
    (isNumber : diagnostic.problem.number = number) : DifferWithin [number] [diagnostic] where
  differ := List.pairwise_singleton _ _
  kinds other member := by
    rw [List.mem_singleton.1 member, isNumber]
    exact List.mem_singleton_self _

/-- What different checks find is of different kinds. -/
theorem append {numbers others : List Nat} {first second : List Diagnostic}
    (one : DifferWithin numbers first) (two : DifferWithin others second)
    (apart : ∀ number ∈ numbers, number ∉ others) :
    DifferWithin (numbers ++ others) (first ++ second) where
  differ := by
    refine List.pairwise_append.2 ⟨one.differ, two.differ, fun above isFirst below isSecond => ?_⟩
    apply differsFrom_of_number_ne
    intro same
    exact apart _ (one.kinds above isFirst) (same ▸ two.kinds below isSecond)
  kinds diagnostic member :=
    List.mem_append.2 ((List.mem_append.1 member).imp (one.kinds _) (two.kinds _))

end DifferWithin

end Diagnostic

/-! ## Lines and what they are made of -/

namespace SourceLine

/-- The lexemes of the line make up its text, and none of them is empty. -/
structure IsWhole (line : SourceLine) : Prop where
  source : Lexeme.source line.lexemes = line.text
  nonempty : ∀ lexeme ∈ line.lexemes, lexeme.value ≠ []

theorem isWhole_of_mem_readFrom {table : Table} {number : Nat} {mode : Mode}
    {lines : List Text} {line : SourceLine} (member : line ∈ table.readFrom number mode lines) :
    line.IsWhole := by
  obtain ⟨index, isLine⟩ := List.getElem?_of_mem member
  rw [Table.getElem?_readFrom, Option.map_eq_some_iff] at isLine
  obtain ⟨text, -, rfl⟩ := isLine
  exact ⟨table.source_scanLine _ _, value_ne_nil_of_mem_scanFrom _ _ _ _⟩

theorem IsWhole.length_code_le {line : SourceLine} (whole : line.IsWhole) :
    line.code.length ≤ line.text.length := by
  rw [← whole.source]
  exact (List.filter_sublist.flatMap _).length_le

/-- There is something on a line with code. -/
theorem IsWhole.one_le_length {line : SourceLine} (whole : line.IsWhole)
    (written : line.hasCode = true) : 1 ≤ line.text.length := by
  have nonempty : line.code ≠ [] := by
    intro empty
    rw [hasCode, empty] at written
    cases written
  exact Nat.le_trans (List.length_pos_of_ne_nil nonempty) whole.length_code_le

end SourceLine

/-- Tokens of consecutive lexemes end before later ones start. -/
theorem Lexeme.pairwise_place (line : Int) (column : Nat) (lexemes : List Lexeme) :
    (place line column lexemes).Pairwise fun first second =>
      first.endColumn ≤ second.column := by
  induction lexemes generalizing column with
  | nil => exact .nil
  | cons lexeme others ih =>
      rw [place, List.pairwise_cons]
      exact ⟨fun later member => le_column_of_mem_place member, ih _⟩

theorem Token.column_lt_endColumn {token : Token} (nonempty : token.value ≠ []) :
    token.column < token.endColumn :=
  Nat.lt_add_of_pos_right (List.length_pos_of_ne_nil nonempty)

/-! ## What the checks of a line find -/

namespace Table

variable (table : Table)

/-- A check of the head of a line finds each kind of missing colon at most once, in the
order of their numbers. -/
theorem numbers_colonProblems (code : Text) :
    ((table.colonProblems code).map Problem.number).Sublist [101, 102, 103, 104, 109] := by
  have single {held : Prop} [Decidable held] (problem : Problem) :
      ((if held then [problem] else []).map Problem.number).Sublist [problem.number] := by
    split
    · exact .refl _
    · exact List.nil_sublist _
  have optional (word : Option Text) :
      ((word.map Problem.statementWithoutColon).toList.map Problem.number).Sublist [109] := by
    cases word with
    | none => exact List.nil_sublist _
    | some word => exact .refl _
  unfold colonProblems
  split
  · exact List.nil_sublist _
  · simp only [List.map_append]
    exact ((((single .conditionWithoutColon).append (single (.bareWordWithoutColon code))).append
      (single .functionWithoutColon)).append (single .loopWithoutColon)).append (optional _)

theorem differWithin_colonDiagnostics (line : SourceLine) :
    Diagnostic.DifferWithin [101, 102, 103, 104, 109] (table.colonDiagnostics line) where
  differ := by
    have rising : [101, 102, 103, 104, 109].Pairwise (· < ·) := by decide
    have numbers := rising.sublist (table.numbers_colonProblems line.code.trim)
    rw [List.pairwise_map] at numbers
    rw [colonDiagnostics, List.pairwise_map]
    exact numbers.imp fun less => Diagnostic.differsFrom_of_number_ne (Nat.ne_of_lt less)
  kinds diagnostic member := by
    obtain ⟨problem, found, rfl⟩ := List.mem_map.1 member
    exact (table.numbers_colonProblems _).subset (List.mem_map_of_mem found)

theorem differWithin_indentationDiagnostics (line : SourceLine) (following : List SourceLine) :
    Diagnostic.DifferWithin [106] (table.indentationDiagnostics line following) := by
  rcases table.indentationDiagnostics_eq line following with none | ⟨next, -, one⟩
  · rw [none]
    exact .nil _
  · rw [one]
    exact .singleton rfl

theorem differWithin_parenthesisDiagnostics (line : SourceLine) :
    Diagnostic.DifferWithin [105] line.parenthesisDiagnostics := by
  unfold SourceLine.parenthesisDiagnostics
  split
  · exact .nil _
  · exact .singleton rfl

theorem differWithin_tokenDiagnostics {line : SourceLine} (whole : line.IsWhole) :
    Diagnostic.DifferWithin [107, 108] (table.tokenDiagnostics line) where
  differ := by
    rw [tokenDiagnostics, List.pairwise_filterMap]
    apply (Lexeme.pairwise_place line.number 1 line.lexemes).imp_of_mem
    intro first second isFirst isSecond apart diagnostic found other foundOther _ sameColumn
    obtain ⟨problem, -, rfl⟩ := Option.map_eq_some_iff.1 found
    obtain ⟨problem', -, rfl⟩ := Option.map_eq_some_iff.1 foundOther
    have wide := Token.column_lt_endColumn (whole.nonempty _ (Lexeme.mem_of_mem_place isFirst))
    change first.column = second.column at sameColumn
    omega
  kinds diagnostic member := by
    obtain ⟨token, -, problem, isProblem, rfl⟩ := table.exists_of_mem_tokenDiagnostics member
    unfold tokenProblem? at isProblem
    split at isProblem
    · obtain ⟨surface, -, rfl⟩ := Option.map_eq_some_iff.1 isProblem
      exact List.mem_cons_self
    · cases isProblem
      exact List.mem_cons_of_mem 107 List.mem_cons_self
    · cases isProblem

/-- The diagnostics that one line gives rise to differ from each other. -/
theorem differ_lineDiagnostics {line : SourceLine} (whole : line.IsWhole)
    (following : List SourceLine) :
    (table.lineDiagnostics line following).Pairwise Diagnostic.DiffersFrom := by
  have head := (table.differWithin_colonDiagnostics line).append
    (table.differWithin_indentationDiagnostics line following) (by decide)
  have parentheses := differWithin_parenthesisDiagnostics line
  have tokens := table.differWithin_tokenDiagnostics whole
  unfold lineDiagnostics
  split
  · split
    · exact (((Diagnostic.DifferWithin.nil []).append parentheses (by decide)).append tokens
        (by decide)).differ
    · exact ((head.append parentheses (by decide)).append tokens (by decide)).differ
  · exact .nil

end Table

/-! ## Where on its line a diagnostic lies -/

namespace Diagnostic

/-- There is something on the line, and the diagnostic covers columns of it or the one
behind its end. -/
structure LiesOn (diagnostic : Diagnostic) (line : SourceLine) : Prop where
  sameLine : diagnostic.line = line.number
  written : 1 ≤ line.text.length
  starts : 1 ≤ diagnostic.column
  inside : diagnostic.column ≤ line.text.length + 1
  wide : diagnostic.column < diagnostic.endColumn
  ends : diagnostic.endColumn ≤ line.text.length + 2

/-- The first column of a line with code may be reported. -/
theorem liesOn_first {line : SourceLine} (whole : line.IsWhole) (written : line.hasCode = true)
    (problem : Problem) : LiesOn ⟨line.number, 1, 2, problem⟩ line where
  sameLine := rfl
  written := whole.one_le_length written
  starts := Nat.le_refl 1
  inside := Nat.le_add_left 1 _
  wide := Nat.lt_succ_self 1
  ends := Nat.le_add_left 2 _

theorem liesOn_of_mem_colonDiagnostics {table : Table} {line : SourceLine} (whole : line.IsWhole)
    (written : line.hasCode = true) {diagnostic : Diagnostic}
    (member : diagnostic ∈ table.colonDiagnostics line) : diagnostic.LiesOn line := by
  obtain ⟨problem, -, rfl⟩ := List.mem_map.1 member
  have trimmed : line.code.trimEnd.length ≤ line.text.length := by
    refine Nat.le_trans ?_ whole.length_code_le
    rw [Text.trimEnd, Text.dropEndWhile, List.length_reverse, ← line.code.length_reverse]
    exact List.length_dropWhile_le _ _
  exact {
    sameLine := rfl
    written := whole.one_le_length written
    starts := Nat.le_add_left 1 _
    inside := Nat.succ_le_succ trimmed
    wide := Nat.lt_succ_self _
    ends := Nat.succ_le_succ (Nat.succ_le_succ trimmed) }

theorem liesOn_of_mem_tokenDiagnostics {table : Table} {line : SourceLine} (whole : line.IsWhole)
    (written : line.hasCode = true) {diagnostic : Diagnostic}
    (member : diagnostic ∈ table.tokenDiagnostics line) : diagnostic.LiesOn line := by
  obtain ⟨token, isToken, problem, -, rfl⟩ := table.exists_of_mem_tokenDiagnostics member
  have wide := Token.column_lt_endColumn (whole.nonempty _ (Lexeme.mem_of_mem_place isToken))
  obtain ⟨earlier, later, split, column⟩ := Lexeme.exists_split_of_mem_place isToken
  have length : line.text.length =
      (Lexeme.source earlier).length + (token.value.length + (Lexeme.source later).length) := by
    rw [← whole.source, split, Lexeme.source_append, Lexeme.source_cons, List.length_append,
      List.length_append]
  have ends : token.endColumn = token.column + token.value.length := rfl
  exact {
    sameLine := rfl
    written := whole.one_le_length written
    starts := by
      change 1 ≤ token.column
      omega
    inside := by
      change token.column ≤ line.text.length + 1
      omega
    wide
    ends := by
      change token.endColumn ≤ line.text.length + 2
      omega }

end Diagnostic

namespace Table

variable (table : Table)

/-! ## Diagnostics of different lines -/

/-- What a line gives rise to lies on this line, except that missing indentation lies on
the next line with code. -/
theorem liesOn_of_mem_lineDiagnostics {line : SourceLine} {following : List SourceLine}
    (whole : line.IsWhole) (wholes : ∀ next ∈ following, next.IsWhole) {diagnostic : Diagnostic}
    (member : diagnostic ∈ table.lineDiagnostics line following) :
    line.hasCode = true ∧
      (diagnostic.LiesOn line ∧ diagnostic.problem.number ≠ 106 ∨
        ∃ next, following.find? (·.hasCode) = some next ∧ diagnostic.LiesOn next ∧
          diagnostic.problem.number = 106) := by
  have other {numbers : List Nat} (kind : diagnostic.problem.number ∈ numbers)
      (apart : 106 ∉ numbers) : diagnostic.problem.number ≠ 106 :=
    fun same => apart (same ▸ kind)
  obtain ⟨written, found⟩ := table.mem_lineDiagnostics.1 member
  refine ⟨written, ?_⟩
  rcases found with ⟨-, colon | indentation⟩ | parentheses | tokens
  · exact .inl ⟨Diagnostic.liesOn_of_mem_colonDiagnostics whole written colon,
      other ((table.differWithin_colonDiagnostics line).kinds _ colon) (by decide)⟩
  · obtain ⟨next, found, rfl⟩ := table.exists_of_mem_indentationDiagnostics indentation
    exact .inr ⟨next, found, Diagnostic.liesOn_first
      (wholes next (List.mem_of_find?_eq_some found)) (List.find?_some found) _, rfl⟩
  · have kind := (differWithin_parenthesisDiagnostics line).kinds _ parentheses
    obtain rfl := eq_of_mem_parenthesisDiagnostics parentheses
    exact .inl ⟨Diagnostic.liesOn_first whole written _, other kind (by decide)⟩
  · exact .inl ⟨Diagnostic.liesOn_of_mem_tokenDiagnostics whole written tokens,
      other ((table.differWithin_tokenDiagnostics whole).kinds _ tokens) (by decide)⟩

theorem liesOn_of_mem_diagnose {lines : List SourceLine} (wholes : ∀ line ∈ lines, line.IsWhole)
    {diagnostic : Diagnostic} (member : diagnostic ∈ table.diagnose lines) :
    ∃ line ∈ lines, diagnostic.LiesOn line := by
  induction lines with
  | nil => cases member
  | cons line following ih =>
      rw [List.forall_mem_cons] at wholes
      rcases List.mem_append.1 member with here | behind
      · obtain ⟨-, ⟨lies, -⟩ | ⟨next, found, lies, -⟩⟩ :=
          table.liesOn_of_mem_lineDiagnostics wholes.1 wholes.2 here
        · exact ⟨line, List.mem_cons_self, lies⟩
        · exact ⟨next, List.mem_cons_of_mem line (List.mem_of_find?_eq_some found), lies⟩
      · obtain ⟨place, listed, lies⟩ := ih wholes.2 behind
        exact ⟨place, List.mem_cons_of_mem line listed, lies⟩

/-- Missing indentation is reported below the first line with code. -/
theorem number_lt_of_mem_diagnose {lines : List SourceLine}
    (wholes : ∀ line ∈ lines, line.IsWhole)
    (rising : lines.Pairwise fun first second => first.number < second.number)
    {head : SourceLine} (found : lines.find? (·.hasCode) = some head) {diagnostic : Diagnostic}
    (member : diagnostic ∈ table.diagnose lines) (missing : diagnostic.problem.number = 106) :
    head.number < diagnostic.line := by
  induction lines with
  | nil => cases member
  | cons line following ih =>
      rw [List.forall_mem_cons] at wholes
      rw [List.pairwise_cons] at rising
      cases written : line.hasCode with
      | true =>
          rw [List.find?_cons_of_pos written, Option.some_inj] at found
          subst found
          have below : ∃ next ∈ following, diagnostic.LiesOn next := by
            rcases List.mem_append.1 member with here | behind
            · obtain ⟨-, ⟨-, other⟩ | ⟨next, isNext, lies, -⟩⟩ :=
                table.liesOn_of_mem_lineDiagnostics wholes.1 wholes.2 here
              · exact absurd missing other
              · exact ⟨next, List.mem_of_find?_eq_some isNext, lies⟩
            · exact table.liesOn_of_mem_diagnose wholes.2 behind
          obtain ⟨next, listed, lies⟩ := below
          rw [lies.sameLine]
          exact rising.1 next listed
      | false =>
          rw [List.find?_cons_of_neg (Bool.eq_false_iff.1 written)] at found
          rcases List.mem_append.1 member with here | behind
          · have code := (table.liesOn_of_mem_lineDiagnostics wholes.1 wholes.2 here).1
            rw [written] at code
            exact Bool.noConfusion code
          · exact ih wholes.2 rising.2 found behind

/-- No two diagnostics are of one kind at one place. -/
theorem differ_diagnose {lines : List SourceLine} (wholes : ∀ line ∈ lines, line.IsWhole)
    (rising : lines.Pairwise fun first second => first.number < second.number) :
    (table.diagnose lines).Pairwise Diagnostic.DiffersFrom := by
  induction lines with
  | nil => exact .nil
  | cons line following ih =>
      rw [List.forall_mem_cons] at wholes
      rw [List.pairwise_cons] at rising
      refine List.pairwise_append.2 ⟨table.differ_lineDiagnostics wholes.1 following,
        ih wholes.2 rising.2, fun diagnostic here other behind => ?_⟩
      obtain ⟨-, ⟨lies, -⟩ | ⟨next, found, lies, missing⟩⟩ :=
        table.liesOn_of_mem_lineDiagnostics wholes.1 wholes.2 here
      · obtain ⟨place, listed, below⟩ := table.liesOn_of_mem_diagnose wholes.2 behind
        apply Diagnostic.differsFrom_of_line_lt
        rw [lies.sameLine, below.sameLine]
        exact rising.1 place listed
      · -- A lower head blames a line below itself, and it has code itself.
        intro sameLine _ sameNumber
        have below := table.number_lt_of_mem_diagnose wholes.2 rising.2 found behind
          (sameNumber.symm.trans missing)
        rw [← sameLine, lies.sameLine] at below
        exact Nat.lt_irrefl _ below

/-- No two diagnostics of a program are of one kind at one place. -/
theorem differ_validate (program : Text) :
    (table.validate program).Pairwise Diagnostic.DiffersFrom := by
  have wholes : ∀ line ∈ table.read program, line.IsWhole :=
    fun _ => SourceLine.isWhole_of_mem_readFrom
  exact (List.mergeSort_perm (table.diagnose (table.read program))
    Diagnostic.le).symm.pairwise
    (table.differ_diagnose wholes (pairwise_number_readFrom 1 .code program.lines)) symm

/-- Diagnostics of a program that are of one kind at one place are the same. -/
theorem eq_of_mem_validate {program : Text} {first second : Diagnostic}
    (isFirst : first ∈ table.validate program) (isSecond : second ∈ table.validate program)
    (line : first.line = second.line) (column : first.column = second.column)
    (number : first.problem.number = second.problem.number) : first = second := by
  by_contra other
  exact (table.differ_validate program).forall isFirst isSecond other line column number

/-- Of the diagnostics of a program, a condition that only one diagnostic can meet leaves
this one or none. -/
theorem filter_validate_of_only (program : Text) {p : Diagnostic → Bool}
    {diagnostic : Diagnostic}
    (only : ∀ other ∈ table.validate program, p other = true ↔ other = diagnostic) :
    (table.validate program).filter p =
      if diagnostic ∈ table.validate program then [diagnostic] else [] :=
  filter_eq_of_nodup ((table.differ_validate program).imp Diagnostic.DiffersFrom.ne) only

/-- For every table and every program, the diagnostics rise strictly by line, column and
code, so none is repeated. Each of them lies on a line of the program that holds a
character besides the returns at its end, starts in one of its columns or in the one
behind it, and covers at least one column and none further on. -/
theorem validate_rises (program : Text) :
    (table.validate program).Pairwise Diagnostic.Precedes ∧ (table.validate program).Nodup ∧
      ∀ diagnostic ∈ table.validate program,
        1 ≤ diagnostic.line ∧ diagnostic.line ≤ program.lines.length ∧
          ∃ text, program.lines[diagnostic.line - 1]? = some text ∧
            1 ≤ text.dropReturns.length ∧
            1 ≤ diagnostic.column ∧ diagnostic.column ≤ text.dropReturns.length + 1 ∧
            diagnostic.column < diagnostic.endColumn ∧
            diagnostic.endColumn ≤ text.dropReturns.length + 2 := by
  have wholes : ∀ line ∈ table.read program, line.IsWhole :=
    fun _ => SourceLine.isWhole_of_mem_readFrom
  have sorted := List.pairwise_mergeSort Diagnostic.le_trans Diagnostic.le_total
    (table.diagnose (table.read program))
  have differ := table.differ_validate program
  refine ⟨sorted.imp₂ (fun _ _ => Diagnostic.precedes_of_le) differ,
    differ.imp Diagnostic.DiffersFrom.ne, fun diagnostic member => ?_⟩
  obtain ⟨line, isLine, lies⟩ :=
    table.liesOn_of_mem_diagnose wholes (List.mem_mergeSort.1 member)
  obtain ⟨index, text, isText, rfl⟩ := table.exists_of_mem_read isLine
  obtain ⟨inside, -⟩ := List.getElem?_eq_some_iff.1 isText
  have number : diagnostic.line = 1 + index := lies.sameLine
  refine ⟨by omega, by omega, text, ?_, lies.written, lies.starts, lies.inside, lies.wide,
    lies.ends⟩
  rw [number, Nat.add_sub_cancel_left, isText]

end Table

end KeywordBridge
