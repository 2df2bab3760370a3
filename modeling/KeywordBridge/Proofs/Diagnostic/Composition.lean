import KeywordBridge.Keyword.Default
import KeywordBridge.Proofs.Diagnostic.Checks
import KeywordBridge.Proofs.Diagnostic.Order
import KeywordBridge.Proofs.Text.Lines
import KeywordBridge.Proofs.Token.ProgramLines

/-!
# Diagnostics of joined programs

The checks look at single lines, and only the head of a block looks further, at the
next line with code. So two programs that are written one below the other are
checked one by one, as long as the upper one leaves no string open and does not end
with the head of a block: nothing that is found in one of them depends on the other,
and sorting keeps the diagnostics of the upper one in front.
-/

namespace KeywordBridge

/-- The same advice some lines further down. -/
def Diagnostic.moveDown (offset : Nat) (diagnostic : Diagnostic) : Diagnostic :=
  { diagnostic with line := diagnostic.line + offset }

/-- The place of a token within its line does not depend on the number of the line. -/
theorem Lexeme.filterMap_place_line {α : Type} {view : Token → Option α}
    (alike : ∀ kind value first second column,
      view ⟨kind, value, first, column⟩ = view ⟨kind, value, second, column⟩)
    (first second : Int) (column : Nat) (lexemes : List Lexeme) :
    (place first column lexemes).filterMap view = (place second column lexemes).filterMap view := by
  induction lexemes generalizing column with
  | nil => rfl
  | cons lexeme others ih =>
      rw [place, place, List.filterMap_cons, List.filterMap_cons, ih,
        alike lexeme.kind lexeme.value first second column]

namespace Table

variable (table : Table)

/-- Is the line the head of a block: does it start outside strings with a word that
opens a block, and does its code end with a colon? -/
def opensBlock (line : SourceLine) : Bool :=
  !line.continuesString && isHead table.blockWords line.code.trim

/-! ## Where diagnostics lie -/

theorem line_of_mem_colonDiagnostics {line : SourceLine} {diagnostic : Diagnostic}
    (member : diagnostic ∈ table.colonDiagnostics line) : diagnostic.line = line.number := by
  obtain ⟨problem, -, rfl⟩ := List.mem_map.1 member
  rfl

theorem line_of_mem_indentationDiagnostics {line : SourceLine} {following : List SourceLine}
    {diagnostic : Diagnostic} (member : diagnostic ∈ table.indentationDiagnostics line following) :
    ∃ next ∈ following, diagnostic.line = next.number := by
  obtain ⟨next, found, rfl⟩ := table.exists_of_mem_indentationDiagnostics member
  exact ⟨next, List.mem_of_find?_eq_some found, rfl⟩

theorem line_of_mem_parenthesisDiagnostics {line : SourceLine} {diagnostic : Diagnostic}
    (member : diagnostic ∈ line.parenthesisDiagnostics) : diagnostic.line = line.number := by
  rw [eq_of_mem_parenthesisDiagnostics member]

theorem line_of_mem_tokenDiagnostics {line : SourceLine} {diagnostic : Diagnostic}
    (member : diagnostic ∈ table.tokenDiagnostics line) : diagnostic.line = line.number := by
  obtain ⟨token, -, problem, -, rfl⟩ := table.exists_of_mem_tokenDiagnostics member
  rfl

theorem line_of_mem_lineDiagnostics {line : SourceLine} {following : List SourceLine}
    {diagnostic : Diagnostic} (member : diagnostic ∈ table.lineDiagnostics line following) :
    ∃ place ∈ line :: following, diagnostic.line = place.number := by
  have here (same : diagnostic.line = line.number) :
      ∃ place ∈ line :: following, diagnostic.line = place.number :=
    ⟨line, List.mem_cons_self, same⟩
  obtain ⟨-, ⟨-, colon | indentation⟩ | parentheses | tokens⟩ :=
    table.mem_lineDiagnostics.1 member
  · exact here (table.line_of_mem_colonDiagnostics colon)
  · obtain ⟨next, listed, same⟩ := table.line_of_mem_indentationDiagnostics indentation
    exact ⟨next, List.mem_cons_of_mem line listed, same⟩
  · exact here (line_of_mem_parenthesisDiagnostics parentheses)
  · exact here (table.line_of_mem_tokenDiagnostics tokens)

/-- Every diagnostic lies on one of the lines. -/
theorem line_of_mem_diagnose {lines : List SourceLine} {diagnostic : Diagnostic}
    (member : diagnostic ∈ table.diagnose lines) :
    ∃ line ∈ lines, diagnostic.line = line.number := by
  obtain ⟨above, line, below, rfl, found⟩ := table.mem_diagnose.1 member
  obtain ⟨place, listed, same⟩ := table.line_of_mem_lineDiagnostics found
  exact ⟨place, List.mem_append_right above listed, same⟩

/-! ## Lines further down -/

theorem colonDiagnostics_moveDown (offset : Nat) (line : SourceLine) :
    table.colonDiagnostics (line.moveDown offset) =
      (table.colonDiagnostics line).map (Diagnostic.moveDown offset) := by
  rw [colonDiagnostics, colonDiagnostics, List.map_map]
  rfl

theorem indentationDiagnostics_moveDown (offset : Nat) (line : SourceLine)
    (following : List SourceLine) :
    table.indentationDiagnostics (line.moveDown offset)
        (following.map (SourceLine.moveDown offset)) =
      (table.indentationDiagnostics line following).map (Diagnostic.moveDown offset) := by
  unfold indentationDiagnostics
  rw [show (line.moveDown offset).code = line.code from rfl, List.find?_map]
  split
  · have next : following.find? ((·.hasCode) ∘ SourceLine.moveDown offset) =
        following.find? (·.hasCode) :=
      rfl
    rw [next]
    cases following.find? (·.hasCode) with
    | none => rfl
    | some next =>
        rw [Option.map_some, apply_ite (List.map (Diagnostic.moveDown offset))]
        rfl
  · rfl

theorem parenthesisDiagnostics_moveDown (offset : Nat) (line : SourceLine) :
    (line.moveDown offset).parenthesisDiagnostics =
      line.parenthesisDiagnostics.map (Diagnostic.moveDown offset) := by
  rw [SourceLine.parenthesisDiagnostics, SourceLine.parenthesisDiagnostics,
    apply_ite (List.map (Diagnostic.moveDown offset))]
  rfl

theorem tokenDiagnostics_moveDown (offset : Nat) (line : SourceLine) :
    table.tokenDiagnostics (line.moveDown offset) =
      (table.tokenDiagnostics line).map (Diagnostic.moveDown offset) := by
  rw [tokenDiagnostics, tokenDiagnostics, SourceLine.tokens, SourceLine.tokens,
    Lexeme.filterMap_place_line (fun _ _ _ _ _ => rfl) _ line.number, List.map_filterMap]
  simp only [Option.map_map]
  rfl

theorem lineDiagnostics_moveDown (offset : Nat) (line : SourceLine)
    (following : List SourceLine) :
    table.lineDiagnostics (line.moveDown offset)
        (following.map (SourceLine.moveDown offset)) =
      (table.lineDiagnostics line following).map (Diagnostic.moveDown offset) := by
  rw [lineDiagnostics, lineDiagnostics, colonDiagnostics_moveDown,
    indentationDiagnostics_moveDown, parenthesisDiagnostics_moveDown, tokenDiagnostics_moveDown]
  change (if line.hasCode then (if line.continuesString then [] else _) ++ _ ++ _ else _) = _
  split
  · rw [List.map_append, List.map_append]
    split
    · rfl
    · rw [List.map_append]
  · rfl

theorem diagnose_moveDown (offset : Nat) (lines : List SourceLine) :
    table.diagnose (lines.map (SourceLine.moveDown offset)) =
      (table.diagnose lines).map (Diagnostic.moveDown offset) := by
  induction lines with
  | nil => rfl
  | cons line following ih =>
      rw [List.map_cons, diagnose, diagnose, lineDiagnostics_moveDown, ih, List.map_append]

/-! ## Lines one below the other -/

/-- Lines further below do not matter to a line that is no head of a block or that
has code below it already. -/
theorem lineDiagnostics_append {line : SourceLine} {following : List SourceLine}
    (settled : line.hasCode = true → table.opensBlock line = true →
      (following.find? (·.hasCode)).isSome = true)
    (below : List SourceLine) :
    table.lineDiagnostics line (following ++ below) = table.lineDiagnostics line following := by
  unfold lineDiagnostics
  split
  · rename_i written
    split
    · rfl
    · rename_i outside
      have same : table.indentationDiagnostics line (following ++ below) =
          table.indentationDiagnostics line following := by
        unfold indentationDiagnostics
        split
        · rename_i head
          have opens : table.opensBlock line = true := by
            rw [opensBlock, head, Bool.eq_false_iff.2 outside]
            rfl
          obtain ⟨next, found⟩ := Option.isSome_iff_exists.1 (settled written opens)
          rw [List.find?_append, found, Option.some_or]
        · rfl
      rw [same]
  · rfl

/-- Lists of lines are checked one by one if the last line with code of the first
one is no head of a block. -/
theorem diagnose_append {first : List SourceLine}
    (settled : ∀ line, (first.filter (·.hasCode)).getLast? = some line →
      table.opensBlock line = false)
    (second : List SourceLine) :
    table.diagnose (first ++ second) = table.diagnose first ++ table.diagnose second := by
  induction first with
  | nil => rfl
  | cons line following ih =>
      have behind : ∀ last, (following.filter (·.hasCode)).getLast? = some last →
          table.opensBlock last = false := by
        intro last found
        apply settled
        rw [List.filter_cons]
        split
        · rw [List.getLast?_cons, found, Option.getD_some]
        · exact found
      have here : line.hasCode = true → table.opensBlock line = true →
          (following.find? (·.hasCode)).isSome = true := by
        intro written opens
        by_contra missing
        rw [List.find?_isSome] at missing
        have noCode : following.filter (·.hasCode) = [] := by
          rw [List.filter_eq_nil_iff]
          exact fun next listed code => missing ⟨next, listed, code⟩
        have closed := settled line (by rw [List.filter_cons_of_pos written, noCode]; rfl)
        rw [opens] at closed
        exact Bool.noConfusion closed
      rw [List.cons_append, diagnose, diagnose, table.lineDiagnostics_append here, ih behind,
        List.append_assoc]

/-! ## Programs -/

theorem diagnose_eq_nil {lines : List SourceLine}
    (noCode : ∀ line ∈ lines, line.hasCode = false) : table.diagnose lines = [] := by
  induction lines with
  | nil => rfl
  | cons line following ih =>
      rw [List.forall_mem_cons] at noCode
      rw [diagnose, ih noCode.2, lineDiagnostics, if_neg (Bool.eq_false_iff.1 noCode.1),
        List.append_nil]

/-- A program of blanks has no line with code, so there is nothing to report. -/
theorem validate_of_isBlank {program : Text} (blank : program.isBlank = true) :
    table.validate program = [] := by
  have noCode : ∀ line ∈ table.read program, line.hasCode = false := by
    intro line member
    obtain ⟨text, listed, source⟩ := table.source_of_mem_readFrom member
    rw [Text.isBlank, List.all_eq_true] at blank
    rw [SourceLine.hasCode, Bool.not_eq_false', Text.isBlank, List.all_eq_true]
    intro c inside
    obtain ⟨lexeme, kept, inside⟩ := List.mem_flatMap.1 inside
    have onLine : c ∈ Lexeme.source line.lexemes :=
      List.mem_flatMap_of_mem (List.mem_filter.1 kept).1 inside
    rw [source] at onLine
    exact blank c (Text.mem_of_mem_cutAt listed (Text.mem_of_mem_dropReturns onLine)).1
  rw [validate, table.diagnose_eq_nil noCode, List.mergeSort_nil]

/-- Two programs that are written one below the other are checked one by one, if the
upper one leaves no string open and its last line with code is no head of a block. -/
theorem validate_append {upper lower : Text}
    (closed : table.modeAfter .code upper.lines = .code)
    (settled : ∀ line, ((table.read upper).filter (·.hasCode)).getLast? = some line →
      table.opensBlock line = false) :
    table.validate (upper ++ '\n' :: lower) =
      table.validate upper
        ++ (table.validate lower).map (Diagnostic.moveDown upper.lines.length) := by
  have found : table.diagnose (table.read (upper ++ '\n' :: lower)) =
      table.diagnose (table.read upper)
        ++ (table.diagnose (table.read lower)).map (Diagnostic.moveDown upper.lines.length) := by
    have lines : table.read (upper ++ '\n' :: lower) =
        table.read upper ++ (table.read lower).map (SourceLine.moveDown upper.lines.length) := by
      rw [read, Text.lines_append_newline, readFrom_append, closed, readFrom_add]
      rfl
    rw [lines, table.diagnose_append settled, diagnose_moveDown]
  have apart : ∀ above ∈ table.diagnose (table.read upper),
      ∀ below ∈ (table.diagnose (table.read lower)).map
        (Diagnostic.moveDown upper.lines.length), Diagnostic.le above below = true := by
    intro above first below second
    obtain ⟨line, listed, same⟩ := table.line_of_mem_diagnose first
    obtain ⟨diagnostic, moved, rfl⟩ := List.mem_map.1 second
    obtain ⟨next, listedNext, sameNext⟩ := table.line_of_mem_diagnose moved
    have upperBound := table.number_of_mem_readFrom listed
    have lowerBound := table.number_of_mem_readFrom listedNext
    apply Diagnostic.le_of_line_lt
    change above.line < diagnostic.line + upper.lines.length
    omega
  have moved : ((table.diagnose (table.read lower)).mergeSort Diagnostic.le).map
        (Diagnostic.moveDown upper.lines.length) =
      ((table.diagnose (table.read lower)).map
        (Diagnostic.moveDown upper.lines.length)).mergeSort Diagnostic.le := by
    apply List.map_mergeSort
    intro above _ below _
    rw [Bool.eq_iff_iff, Diagnostic.le_iff, Diagnostic.le_iff]
    simp only [Diagnostic.moveDown]
    omega
  rw [validate, found, mergeSort_append Diagnostic.le_trans Diagnostic.le_total apart, ← moved]
  rfl

/-- Below a docstring with the head of a block in it and a comment with another, a
lower program keeps its two diagnostics. -/
theorem validate_append_docstring :
    let upper : Text := "enye:\n  if (\n\"\"\"nge\nukuba:\"\"\"\n# enye:"
    let lower : Text := "zama:\n'"
    default.modeAfter .code upper.lines = .code ∧
      (∀ line, ((default.read upper).filter (·.hasCode)).getLast? = some line →
        default.opensBlock line = false) ∧
      default.validate upper =
        [⟨2, 1, 2, .unbalancedParentheses⟩, ⟨2, 3, 5, .targetKeyword "ukuba" "if"⟩] ∧
      default.validate lower = [⟨2, 1, 2, .missingIndentation⟩, ⟨2, 1, 2, .brokenString⟩] ∧
      default.validate (upper ++ '\n' :: lower) =
        [⟨2, 1, 2, .unbalancedParentheses⟩, ⟨2, 3, 5, .targetKeyword "ukuba" "if"⟩,
          ⟨7, 1, 2, .missingIndentation⟩, ⟨7, 1, 2, .brokenString⟩] := by
  intro upper lower
  -- One evaluation reads both programs once for all of this.
  have read : default.modeAfter .code upper.lines = .code ∧
      ((default.read upper).filter (·.hasCode)).getLast?.any default.opensBlock = false ∧
      default.diagnose (default.read upper) =
        [⟨2, 1, 2, .unbalancedParentheses⟩, ⟨2, 3, 5, .targetKeyword "ukuba" "if"⟩] ∧
      default.diagnose (default.read lower) =
        [⟨2, 1, 2, .missingIndentation⟩, ⟨2, 1, 2, .brokenString⟩] := by
    decide +kernel
  obtain ⟨closed, last, foundAbove, foundBelow⟩ := read
  have settled : ∀ line, ((default.read upper).filter (·.hasCode)).getLast? = some line →
      default.opensBlock line = false := by
    intro line found
    rwa [found, Option.any_some] at last
  have above : default.validate upper =
      [⟨2, 1, 2, .unbalancedParentheses⟩, ⟨2, 3, 5, .targetKeyword "ukuba" "if"⟩] := by
    rw [validate, foundAbove, List.mergeSort_of_pairwise (by decide)]
  have below : default.validate lower =
      [⟨2, 1, 2, .missingIndentation⟩, ⟨2, 1, 2, .brokenString⟩] := by
    rw [validate, foundBelow, List.mergeSort_of_pairwise (by decide)]
  have joined : default.validate (upper ++ '\n' :: lower) = _ :=
    validate_append default closed settled
  rw [above, below] at joined
  exact ⟨closed, settled, above, below, joined⟩

end Table

end KeywordBridge
