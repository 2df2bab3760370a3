import KeywordBridge.Proofs.Diagnostic.Checks
import KeywordBridge.Proofs.Text.Lines
import KeywordBridge.Proofs.Token.Columns
import KeywordBridge.Proofs.Token.Recognition

/-!
# Strings that a line breaks off

Reading a program for its quotes line by line tells which lines break off a
string. The checks report each of these lines once, and no other, since the
tokens of a line hold a broken string exactly if its reading ends inside one.
-/

namespace KeywordBridge

/-! ## The reports of a line -/

/-- Is a broken string reported? -/
def Diagnostic.reportsBrokenString (diagnostic : Diagnostic) : Bool :=
  diagnostic.problem = .brokenString

/-- A line with a broken string has code. -/
theorem SourceLine.hasCode_of_breaksString {line : SourceLine} {reading : List Region × Zone}
    {final : Mode} (agrees : LineAgrees line.lexemes final reading)
    (breaks : reading.2.breaksString = true) : line.hasCode = true := by
  obtain ⟨earlier, last, split, kind, visible, -⟩ := agrees.broken breaks
  apply hasCode_of_mem _ _ visible
  · rw [split]
    exact List.mem_append_right _ List.mem_cons_self
  · rw [kind]
    exact TokenKind.noConfusion

namespace Table

variable (table : Table)

theorem tokenProblem?_eq_brokenString {token : Token} :
    table.tokenProblem? token = some .brokenString ↔ token.kind = .brokenString := by
  rw [tokenProblem?]
  split
  · simp_all
  · simp_all
  · simp_all

/-- The checks of the tokens of a line report each broken string among them. -/
theorem tokenDiagnostics_brokenStrings (line : SourceLine) :
    ((table.tokenDiagnostics line).filter Diagnostic.reportsBrokenString).map (·.line) =
      List.replicate (line.lexemes.countP (·.kind = .brokenString)) line.number := by
  rw [← Lexeme.countP_place (fun kind => kind = .brokenString) line.number 1,
    tokenDiagnostics, SourceLine.tokens]
  induction Lexeme.place line.number 1 line.lexemes with
  | nil => rfl
  | cons token others ih =>
      by_cases broken : token.kind = .brokenString
      · have found := (table.tokenProblem?_eq_brokenString).2 broken
        rw [List.filterMap_cons_some (by rw [found, Option.map_some]), List.filter_cons_of_pos rfl,
          List.map_cons, ih, List.countP_cons_of_pos (by simpa using broken), List.replicate_succ]
      · rw [List.countP_cons_of_neg (by simpa using broken), ← ih]
        cases found : table.tokenProblem? token with
        | none => rw [List.filterMap_cons_none (by rw [found, Option.map_none])]
        | some problem =>
            have other : problem ≠ .brokenString := by
              rintro rfl
              exact broken (table.tokenProblem?_eq_brokenString.1 found)
            rw [List.filterMap_cons_some (by rw [found, Option.map_some]),
              List.filter_cons_of_neg (by simpa [Diagnostic.reportsBrokenString] using other)]

/-- No other check of a line reports a broken string. -/
theorem lineDiagnostics_brokenStrings (line : SourceLine) (following : List SourceLine) :
    (table.lineDiagnostics line following).filter Diagnostic.reportsBrokenString =
      if line.hasCode then (table.tokenDiagnostics line).filter Diagnostic.reportsBrokenString
      else [] := by
  have noParentheses :
      line.parenthesisDiagnostics.filter Diagnostic.reportsBrokenString = [] := by
    rw [List.filter_eq_nil_iff]
    intro diagnostic member
    rw [eq_of_mem_parenthesisDiagnostics member]
    exact Bool.false_ne_true
  rw [table.lineDiagnostics_filter, noParentheses, List.nil_append]
  intro diagnostic head
  rw [Diagnostic.reportsBrokenString, decide_eq_false_iff_not]
  intro broken
  rw [broken] at head
  exact Bool.noConfusion head

/-- A line is reported once if it breaks off a string, and else not at all. -/
theorem lineDiagnostics_of_agrees (line : SourceLine) {reading : List Region × Zone}
    {final : Mode} (agrees : LineAgrees line.lexemes final reading)
    (following : List SourceLine) :
    ((table.lineDiagnostics line following).filter Diagnostic.reportsBrokenString).map
        (·.line) = if reading.2.breaksString then [line.number] else [] := by
  have count := agrees.countP_brokenString
  have reported := table.tokenDiagnostics_brokenStrings line
  rw [count] at reported
  rw [lineDiagnostics_brokenStrings]
  by_cases breaks : reading.2.breaksString = true
  · rw [if_pos breaks] at reported ⊢
    rw [if_pos (SourceLine.hasCode_of_breaksString agrees breaks), reported]
    rfl
  · rw [if_neg breaks] at reported ⊢
    split
    · exact reported
    · rfl

variable {table}

/-- The broken strings of consecutive lines are reported line by line. -/
theorem HasWordKeywords.diagnose_brokenStrings (words : table.HasWordKeywords) {mode : Mode}
    (start : mode.StartsLine) (number : Nat) {lines : List Text}
    (oneLine : ∀ line ∈ lines, '\n' ∉ line.dropReturns) :
    ((table.diagnose (table.readFrom number mode lines)).filter
        Diagnostic.reportsBrokenString).map (·.line) =
      Zone.brokenLines number (Zone.ofMode mode) (lines.map Text.dropReturns) := by
  induction lines generalizing number mode with
  | nil => rfl
  | cons line rest ih =>
      rw [List.forall_mem_cons] at oneLine
      have agrees := words.lineAgrees start oneLine.1
      have next := words.startsLine_scanLine start oneLine.1
      have behind := ih next (number + 1) oneLine.2
      have here := table.lineDiagnostics_of_agrees
        ⟨number, line.dropReturns, mode, (table.scanLine mode line.dropReturns).1⟩ agrees
        (table.readFrom (number + 1) (table.scanLine mode line.dropReturns).2 rest)
      rw [readFrom, diagnose, List.filter_append, List.map_append, here, behind, agrees.mode,
        List.map_cons, Zone.brokenLines]
      split
      · rfl
      · rfl

/-- The lines that break off a string are the lines that are reported for it. -/
theorem HasWordKeywords.validate_brokenStrings (words : table.HasWordKeywords)
    (program : Text) :
    List.Perm
      (((table.validate program).filter Diagnostic.reportsBrokenString).map (·.line))
      (Zone.brokenLines 1 .code (program.lines.map Text.dropReturns)) := by
  have oneLine : ∀ line ∈ program.lines, '\n' ∉ line.dropReturns :=
    fun _ member => Text.newline_not_mem_dropReturns member
  have found := words.diagnose_brokenStrings (.inl rfl) 1 oneLine
  have sorted := List.mergeSort_perm (table.diagnose (table.read program)) Diagnostic.le
  rw [← Zone.ofMode, ← found]
  exact (sorted.filter _).map _

/-- The tokens of a line are comments and strings exactly where its quotes make
them so, and the checks report exactly the lines that break off a string. -/
theorem quote_recognition {mode : Mode}
    (start : mode = .code ∨ ∃ quote, mode = .inTriple quote) (number : Int) {line : Text}
    (oneLine : '\n' ∉ line) :
    let tokens := (default.tokenizeLine mode number line).1
    let next := (default.tokenizeLine mode number line).2
    let regions := ((Zone.ofMode mode).scan 0 line).1
    let zone := ((Zone.ofMode mode).scan 0 line).2
    (∀ index, (∃ token ∈ tokens, token.Covers (index + 1) ∧ token.kind = .comment) ↔
        regions[index]? = some .comment) ∧
      (∀ index, (∃ token ∈ tokens, token.Covers (index + 1) ∧
          token.kind ∈ [.string, .escape, .brokenString]) ↔
        regions[index]? = some .string) ∧
      next = zone.nextMode ∧
      ((∃ token ∈ tokens, token.kind = .brokenString) ↔ zone.breaksString = true) ∧
      (∀ token ∈ tokens, token.kind = .brokenString → ∃ earlier, tokens = earlier ++ [token] ∧
        token.endColumn = line.length + 1 ∧ ∀ other ∈ earlier, other.kind ≠ .brokenString) ∧
      ∀ program : Text, List.Perm
        (((default.validate program).filter Diagnostic.reportsBrokenString).map (·.line))
        (Zone.brokenLines 1 .code (program.lines.map Text.dropReturns)) := by
  have words := default_hasWordKeywords
  have agrees := words.lineAgrees start oneLine
  have source : Lexeme.source (default.scanLine mode line).1 = line :=
    source_scanFrom default.surfaces mode none line
  have isComment (kind : TokenKind) : kind.region = .comment ↔ kind = .comment := by
    cases kind <;> decide
  have isString (kind : TokenKind) :
      kind.region = .string ↔ kind ∈ [.string, .escape, .brokenString] := by
    cases kind <;> decide
  refine ⟨fun index => ?_, fun index => ?_, agrees.mode, agrees.exists_brokenString_iff number,
    fun token member kind => ?_, words.validate_brokenStrings⟩
  · have covered := agrees.covers_iff number .comment index
    simp only [isComment] at covered
    exact covered
  · have covered := agrees.covers_iff number .string index
    simp only [isString] at covered
    exact covered
  · have last := agrees.brokenString_last number member kind
    rw [source] at last
    exact last

/-- A line that closes a string from the line before behind an escaped quote, and
breaks off another at an escape without a character. -/
theorem quote_recognition_dangling :
    (Mode.inTriple .double = .code ∨ ∃ quote, Mode.inTriple .double = .inTriple quote) ∧
      '\n' ∉ ("\\\"\"\"\"'a' + 'b\\" : Text) ∧
      (default.tokenizeLine (.inTriple .double) 3 "\\\"\"\"\"'a' + 'b\\").2 = .code ∧
      (∃ token ∈ (default.tokenizeLine (.inTriple .double) 3 "\\\"\"\"\"'a' + 'b\\").1,
        token.Covers 8 ∧ token.kind ∈ [.string, .escape, .brokenString]) ∧
      ∃ token ∈ (default.tokenizeLine (.inTriple .double) 3 "\\\"\"\"\"'a' + 'b\\").1,
        token.kind = .brokenString := by
  have start : Mode.inTriple .double = .code ∨ ∃ quote, Mode.inTriple .double = .inTriple quote :=
    .inr ⟨.double, rfl⟩
  have oneLine : '\n' ∉ ("\\\"\"\"\"'a' + 'b\\" : Text) := by decide
  obtain ⟨-, strings, next, broken, -, -⟩ := quote_recognition start 3 oneLine
  exact ⟨start, oneLine, next, (strings 7).2 (by decide), broken.2 (by decide)⟩

end Table

end KeywordBridge
