import KeywordBridge.Proofs.Diagnostic.Advice
import KeywordBridge.Proofs.Diagnostic.MissingColons
import KeywordBridge.Proofs.Program.Indentation
import KeywordBridge.Proofs.Token.CodePart

/-!
# Typing a missing colon

A missing colon is reported behind the last visible character of the code of a line, in
front of the comment if there is one. A colon that is typed there is read as code or as
part of an open string, so the comment stays a comment, an open string stays open, and
the lines below are read as before. The line has its indentation still, so the lines above
find the same next line with code. Only the line itself opens a block now, and what
follows may lack its indentation.
-/

namespace KeywordBridge

/-- The program with a colon typed where the diagnostic starts. -/
def Diagnostic.insertColon (diagnostic : Diagnostic) (program : Text) : Text :=
  Text.joinLines <| program.lines.modify (diagnostic.line - 1) fun line =>
    line.take (diagnostic.column - 1) ++ ':' :: line.drop (diagnostic.column - 1)

/-! ## Texts that end with blanks -/

namespace Text

/-- What is dropped from the end of a text ends at the last character that stays. -/
theorem dropEndWhile_append (p : Char → Bool) (front : Text) {c : Char} (stays : p c = false)
    {back : Text} (dropped : ∀ d ∈ back, p d = true) :
    (front ++ c :: back).dropEndWhile p = front ++ [c] := by
  have empty : back.dropEndWhile p = [] := by
    rw [dropEndWhile, List.reverse_eq_nil_iff, List.dropWhile_eq_nil_iff]
    exact fun d member => dropped d (List.mem_reverse.1 member)
  rw [dropEndWhile_append_cons front stays, empty]

/-- A visible character in front of the last blanks is the last of the trimmed text. -/
theorem getLast?_trim_append_blanks (front : Text) {c : Char} (visible : isBlankChar c = false)
    {blanks : Text} (isBlank : ∀ d ∈ blanks, isBlankChar d = true) :
    (front ++ c :: blanks).trim.getLast? = some c := by
  obtain ⟨kept, rest⟩ : ∃ kept : Text,
      (front ++ c :: blanks).dropWhile isBlankChar = kept ++ c :: blanks := by
    rw [List.dropWhile_append]
    split
    · exact ⟨[], List.dropWhile_cons_of_neg (by rw [visible]; exact Bool.false_ne_true)⟩
    · exact ⟨_, rfl⟩
  rw [trim, rest, trimEnd, dropEndWhile_append isBlankChar kept visible isBlank,
    List.getLast?_concat]

/-- No return is left at the end of a line. -/
theorem last_dropReturns {line front : Text} {last : Char}
    (split : line.dropReturns = front ++ [last]) : (last == '\r') = false := by
  have nonempty : line.dropReturns ≠ [] := by
    rw [split]
    exact List.concat_ne_nil _ _
  have isLast : line.dropReturns.getLast nonempty = last := by
    simp only [split, List.getLast_concat]
  have stays := List.rdropWhile_last_not (· == '\r') line nonempty
  exact Bool.eq_false_iff.2 (isLast ▸ stays)

/-- The same returns are dropped from the end of a line with another character inserted in
front of them. -/
theorem dropReturns_insert {line front back : Text} {c : Char} (other : c ≠ '\r')
    (split : line.dropReturns = front ++ back) :
    (front ++ c :: (back ++ line.returns)).dropReturns = front ++ c :: back := by
  have dropped : ∀ d ∈ line.returns, (d == '\r') = true := fun d member =>
    beq_iff_eq.2 (eq_return_of_mem_returns member)
  rcases List.eq_nil_or_concat' back with rfl | ⟨rest, last, rfl⟩
  · exact dropEndWhile_append (· == '\r') front (beq_eq_false_iff_ne.2 other) dropped
  · rw [← List.append_assoc] at split
    have moved : front ++ c :: (rest ++ [last] ++ line.returns) =
        (front ++ c :: rest) ++ last :: line.returns := by
      simp
    rw [moved, dropReturns, dropEndWhile_append (· == '\r') _ (last_dropReturns split) dropped,
      List.append_assoc, List.cons_append]

end Text

/-! ## What other lines see of a line -/

/-- The lines above cannot tell the lines apart: a head that looks for the next line with
code finds the same. -/
structure SourceLine.SeenAlike (first second : SourceLine) : Prop where
  number : first.number = second.number
  hasCode : first.hasCode = second.hasCode
  continuesString : first.continuesString = second.continuesString
  indentation : indentation first.text = indentation second.text

namespace Table

variable {table : Table}

theorem lineDiagnostics_of_seenAlike {first second : SourceLine}
    (alike : first.SeenAlike second) (line : SourceLine) (between below : List SourceLine) :
    table.lineDiagnostics line (between ++ first :: below) =
      table.lineDiagnostics line (between ++ second :: below) := by
  have same : table.indentationDiagnostics line (between ++ first :: below) =
      table.indentationDiagnostics line (between ++ second :: below) := by
    unfold indentationDiagnostics
    rw [List.find?_append, List.find?_append, List.find?_cons, List.find?_cons, alike.hasCode]
    cases between.find? (·.hasCode) with
    | some next => rfl
    | none =>
        cases second.hasCode with
        | false => rfl
        | true =>
            simp only [Option.none_or, alike.number, alike.continuesString, alike.indentation]
  rw [lineDiagnostics, lineDiagnostics, same]

/-- What is reported on account of the lines above stays the same. -/
theorem exists_diagnose_of_seenAlike {first second : SourceLine}
    (alike : first.SeenAlike second) (above below : List SourceLine) :
    ∃ upper, table.diagnose (above ++ first :: below) = upper ++ table.diagnose (first :: below) ∧
      table.diagnose (above ++ second :: below) = upper ++ table.diagnose (second :: below) := by
  induction above with
  | nil => exact ⟨[], rfl, rfl⟩
  | cons line rest ih =>
      obtain ⟨upper, isFirst, isSecond⟩ := ih
      refine ⟨table.lineDiagnostics line (rest ++ first :: below) ++ upper, ?_, ?_⟩
      · rw [List.cons_append, diagnose, isFirst, List.append_assoc]
      · rw [List.cons_append, diagnose, isSecond, lineDiagnostics_of_seenAlike alike,
          List.append_assoc]

/-! ## A colon on one line -/

/-- A line that starts in code, as it is read with a number. -/
def codeLine (table : Table) (number : Nat) (line : Text) : SourceLine :=
  ⟨number, line.dropReturns, .code, (table.scanLine .code line.dropReturns).1⟩

/-- A line that starts in code is its code without the blanks at its end, these blanks,
and a comment if there is one. -/
theorem HasWordKeywords.exists_code_split (words : table.HasWordKeywords) {line : Text}
    (oneLine : '\n' ∉ line.dropReturns) (number : Nat) :
    ∃ comment : Text, (∀ c ∈ comment.head?, c = '#') ∧
      line.dropReturns = (table.codeLine number line).code.trimEnd ++
        ((table.codeLine number line).code.trailing ++ comment) ∧
      Zone.code.codePart 0 line.dropReturns = (table.codeLine number line).code.trimEnd ++
        (table.codeLine number line).code.trailing := by
  have isCode : (table.codeLine number line).code = Zone.code.codePart 0 line.dropReturns :=
    words.source_filter_scanLine (.inl rfl) oneLine
  obtain ⟨comment, whole, sign⟩ :=
    @Zone.exists_comment .code Zone.noConfusion 0 line.dropReturns
  refine ⟨comment, sign, ?_, ?_⟩
  · rw [← List.append_assoc, Text.trimEnd_append_trailing, isCode]
    exact whole
  · rw [Text.trimEnd_append_trailing, isCode]

/-- A colon is typed behind the code of a line: the mode of the next line stays the same,
the lines above cannot tell the difference, and the code ends with the colon. -/
theorem HasWordKeywords.codeLine_insert (words : table.HasWordKeywords) {line : Text}
    (oneLine : '\n' ∉ line.dropReturns) (number : Nat)
    (written : (table.codeLine number line).hasCode = true) {typed : Text}
    (isTyped : typed = line.take (table.codeLine number line).code.trimEnd.length ++
      ':' :: line.drop (table.codeLine number line).code.trimEnd.length) :
    (table.scanLine .code typed.dropReturns).2 = (table.scanLine .code line.dropReturns).2 ∧
      (table.codeLine number line).SeenAlike (table.codeLine number typed) ∧
      (table.codeLine number typed).code.trim.getLast? = some ':' := by
  obtain ⟨comment, sign, whole, isCode⟩ := words.exists_code_split oneLine number
  have visible := SourceLine.exists_visible_of_hasCode written
  have isBlank : ∀ c ∈ (table.codeLine number line).code.trailing, isBlankChar c = true :=
    fun _ => Text.isBlankChar_of_mem_trailing
  generalize (table.codeLine number line).code.trimEnd = front at *
  generalize (table.codeLine number line).code.trailing = blanks at *
  have isLine : line = front ++ (blanks ++ comment ++ line.returns) := by
    rw [← List.append_assoc, ← whole, Text.dropReturns_append_returns]
  have dropped : typed.dropReturns = front ++ ':' :: (blanks ++ comment) := by
    have start : line.take front.length = front := by rw [isLine, List.take_left]
    have rest : line.drop front.length = blanks ++ comment ++ line.returns := by
      conv_lhs => rw [isLine, List.drop_left]
    rw [isTyped, start, rest]
    exact Text.dropReturns_insert (by decide) whole
  have oneLineTyped : '\n' ∉ typed.dropReturns := by
    rw [whole] at oneLine
    rw [dropped]
    simpa using oneLine
  obtain ⟨codeTyped, final⟩ := Zone.codePart_insert (c := ':') (by decide)
    (fun c member => Zone.isInert_of_isBlankChar (isBlank c member)) sign (whole ▸ isCode)
  have isCodeTyped : (table.codeLine number typed).code = front ++ ':' :: blanks := by
    rw [← codeTyped, ← dropped]
    exact words.source_filter_scanLine (.inl rfl) oneLineTyped
  refine ⟨?_, ⟨rfl, ?_, rfl, ?_⟩, ?_⟩
  · rw [(words.lineAgrees (.inl rfl) oneLine).mode, (words.lineAgrees (.inl rfl) oneLineTyped).mode,
      dropped, whole]
    exact congrArg Zone.nextMode final
  · rw [written, SourceLine.hasCode, isCodeTyped]
    have colon : isBlankChar ':' = false := by decide
    simp [Text.isBlank, colon]
  · show indentationFrom 0 line.dropReturns = indentationFrom 0 typed.dropReturns
    rw [whole, dropped, indentationFrom_append visible, indentationFrom_append visible]
  · rw [isCodeTyped]
    exact Text.getLast?_trim_append_blanks front (by decide) isBlank

/-! ## What the diagnostics of other lines become -/

/-- Of what a line gives rise to, only missing indentation lies on another line. -/
theorem filter_lineDiagnostics_line_ne {line : SourceLine} (written : line.hasCode = true)
    (outside : line.continuesString = false) {following : List SourceLine}
    (apart : ∀ next ∈ following, next.number ≠ line.number) :
    (table.lineDiagnostics line following).filter (·.line != line.number) =
      table.indentationDiagnostics line following := by
  have none {found : List Diagnostic} (here : ∀ diagnostic ∈ found,
      diagnostic.line = line.number) : found.filter (·.line != line.number) = [] := by
    rw [List.filter_eq_nil_iff]
    intro diagnostic member
    rw [here diagnostic member, bne_self_eq_false]
    exact Bool.false_ne_true
  have indented : (table.indentationDiagnostics line following).filter
      (·.line != line.number) = table.indentationDiagnostics line following := by
    rw [List.filter_eq_self]
    intro diagnostic member
    obtain ⟨next, listed, same⟩ := table.line_of_mem_indentationDiagnostics member
    rw [bne_iff_ne, same]
    exact apart next listed
  rw [lineDiagnostics, if_pos written, outside, if_neg Bool.false_ne_true, List.filter_append,
    List.filter_append, List.filter_append, indented,
    none fun _ => table.line_of_mem_colonDiagnostics,
    none fun _ => line_of_mem_parenthesisDiagnostics,
    none fun _ => table.line_of_mem_tokenDiagnostics, List.nil_append, List.append_nil,
    List.append_nil]

/-- Code that ends with a colon lacks none. -/
theorem colonDiagnostics_of_getLast? {line : SourceLine}
    (ends : line.code.trim.getLast? = some ':') : table.colonDiagnostics line = [] := by
  rw [colonDiagnostics, colonProblems, ends, if_pos (beq_self_eq_true _), List.map_nil]

/-- A line that lacks its colon is not yet the head of a block. -/
theorem indentationDiagnostics_of_mem_colonDiagnostics {line : SourceLine}
    {diagnostic : Diagnostic} (member : diagnostic ∈ table.colonDiagnostics line)
    (following : List SourceLine) : table.indentationDiagnostics line following = [] := by
  rw [indentationDiagnostics, if_neg]
  intro head
  rw [colonDiagnostics_of_getLast? (getLast?_of_isHead head)] at member
  cases member

/-- A missing colon was typed: the line `first` with this colon is `second`. -/
structure ColonTyped (table : Table) (missing : Diagnostic) (first second : SourceLine) :
    Prop where
  alike : first.SeenAlike second
  number : first.number = missing.line
  written : first.hasCode = true
  outside : first.continuesString = false
  reported : missing ∈ table.colonDiagnostics first
  ends : second.code.trim.getLast? = some ':'

/-- On other lines, only the missing indentation of the block that the line opens now is
reported besides what was reported before. -/
theorem ColonTyped.filter_diagnose_perm {missing : Diagnostic} {first second : SourceLine}
    (typed : table.ColonTyped missing first second) (above : List SourceLine)
    {below : List SourceLine} (apart : ∀ next ∈ below, next.number ≠ missing.line) :
    ((table.diagnose (above ++ second :: below)).filter (·.line != missing.line)).Perm
      ((table.diagnose (above ++ first :: below)).filter (·.line != missing.line) ++
        table.indentationDiagnostics second below) := by
  obtain ⟨upper, isFirst, isSecond⟩ := table.exists_diagnose_of_seenAlike typed.alike above below
  rw [← typed.number] at apart ⊢
  have before : (table.lineDiagnostics first below).filter (·.line != first.number) = [] := by
    rw [filter_lineDiagnostics_line_ne typed.written typed.outside apart,
      indentationDiagnostics_of_mem_colonDiagnostics typed.reported]
  have after : (table.lineDiagnostics second below).filter (·.line != first.number) =
      table.indentationDiagnostics second below := by
    rw [typed.alike.number] at apart ⊢
    exact filter_lineDiagnostics_line_ne (typed.alike.hasCode.symm.trans typed.written)
      (typed.alike.continuesString.symm.trans typed.outside) apart
  rw [isFirst, isSecond, diagnose, diagnose, List.filter_append, List.filter_append,
    List.filter_append, List.filter_append, before, after, List.nil_append, List.append_assoc]
  exact List.perm_append_comm.append_left _

/-! ## Programs -/

/-- Diagnostics in their order, no two of which are of one kind at one place, are what
sorting makes of them in any order. -/
theorem eq_mergeSort_of_perm {first second : List Diagnostic}
    (sorted : first.Pairwise fun above below => Diagnostic.le above below = true)
    (differ : first.Pairwise Diagnostic.DiffersFrom) (perm : first.Perm second) :
    first = second.mergeSort Diagnostic.le := by
  have antisymm : ∀ above ∈ first, ∀ below ∈ first, Diagnostic.le above below = true →
      Diagnostic.le below above = true → above = below := by
    intro above isAbove below isBelow le ge
    by_contra other
    have apart := differ.forall isAbove isBelow other
    rw [Diagnostic.le_iff] at le ge
    exact apart (by omega) (by omega) (by omega)
  have permSorted := perm.trans (List.mergeSort_perm second Diagnostic.le).symm
  exact permSorted.eq_of_pairwise
    (fun above below isAbove isBelow => antisymm above isAbove below (permSorted.mem_iff.2 isBelow))
    sorted (List.pairwise_mergeSort Diagnostic.le_trans Diagnostic.le_total second)

/-- A line of a program that continues no string is read in code, behind the lines above
it. -/
theorem HasWordKeywords.exists_codeLine (words : table.HasWordKeywords) {program : Text}
    {line : SourceLine} (isLine : line ∈ table.read program)
    (outside : line.continuesString = false) :
    ∃ above raw below, program.lines = above ++ raw :: below ∧
      table.modeAfter .code above = .code ∧ line = table.codeLine (1 + above.length) raw := by
  obtain ⟨index, raw, isRaw, rfl⟩ := table.exists_of_mem_read isLine
  obtain ⟨inside, isHere⟩ := List.getElem?_eq_some_iff.1 isRaw
  have isCode : table.modeAfter .code (program.lines.take index) = .code := by
    rcases words.startsLine_take program index with code | ⟨quote, triple⟩
    · exact code
    · simp only [SourceLine.continuesString, triple] at outside
      cases outside
  have split : program.lines =
      program.lines.take index ++ raw :: program.lines.drop (index + 1) := by
    rw [← isHere, ← List.drop_eq_getElem_cons inside, List.take_append_drop]
  have length : (program.lines.take index).length = index := by
    rw [List.length_take, Nat.min_eq_left (Nat.le_of_lt inside)]
  refine ⟨_, raw, _, split, isCode, ?_⟩
  rw [length, codeLine, isCode]

/-- Behind lines that leave the mode in code, a line is read in code. -/
theorem read_of_lines {program raw : Text} {above below : List Text}
    (split : program.lines = above ++ raw :: below)
    (isCode : table.modeAfter .code above = .code) :
    table.read program = table.readFrom 1 .code above ++
      table.codeLine (1 + above.length) raw ::
        table.readFrom (1 + above.length + 1) (table.scanLine .code raw.dropReturns).2 below := by
  rw [read, split, readFrom_append, isCode, readFrom_cons]
  rfl

/-- Where a missing colon is reported and typed, the program is read as before apart from
the one line, which ends with the colon now. -/
theorem HasWordKeywords.exists_colonTyped (words : table.HasWordKeywords) {program : Text}
    {missing : Diagnostic} (reported : missing ∈ table.validate program)
    (misses : missing.missesColon = true) :
    ∃ above first second below, table.ColonTyped missing first second ∧
      above.length + 1 = missing.line ∧ table.read program = above ++ first :: below ∧
      table.read (missing.insertColon program) = above ++ second :: below := by
  obtain ⟨line, isLine, written, outside, reports⟩ := exists_of_missesColon reported misses
  obtain ⟨above, raw, below, split, isCode, rfl⟩ := words.exists_codeLine isLine outside
  obtain ⟨problem, -, isMissing⟩ := List.mem_map.1 reports
  have number : missing.line = 1 + above.length := by
    rw [← isMissing]
    rfl
  have column : missing.column - 1 =
      (table.codeLine (1 + above.length) raw).code.trimEnd.length := by
    rw [← isMissing]
    rfl
  let typed := raw.take (missing.column - 1) ++ ':' :: raw.drop (missing.column - 1)
  have single : ∀ text ∈ program.lines, '\n' ∉ text := fun _ member inside =>
    (Text.mem_of_mem_cutAt member inside).2 rfl
  have linesTyped : (missing.insertColon program).lines = above ++ typed :: below := by
    rw [Diagnostic.insertColon, number, Nat.add_sub_cancel_left, split, modify_append_cons]
    apply Text.lines_joinLines (by simp)
    rw [split, List.forall_mem_append, List.forall_mem_cons] at single
    rw [List.forall_mem_append, List.forall_mem_cons]
    refine ⟨single.1, fun inside => ?_, single.2.2⟩
    rw [List.mem_append, List.mem_cons] at inside
    rcases inside with front | colon | back
    · exact single.2.1 (List.mem_of_mem_take front)
    · exact absurd colon (by decide)
    · exact single.2.1 (List.mem_of_mem_drop back)
  have oneLine : '\n' ∉ raw.dropReturns := fun inside =>
    single raw (by rw [split]; simp) (Text.mem_of_mem_dropReturns inside)
  obtain ⟨final, alike, ends⟩ := words.codeLine_insert oneLine (1 + above.length) written
    (show typed = _ by rw [← column])
  refine ⟨table.readFrom 1 .code above, table.codeLine (1 + above.length) raw,
    table.codeLine (1 + above.length) typed, _,
    ⟨alike, number.symm, written, outside, reports, ends⟩, ?_, read_of_lines split isCode, ?_⟩
  · rw [length_readFrom, number, Nat.add_comm]
  · rw [read_of_lines linesTyped isCode, final]

/-- Typing a missing colon where it is reported settles the report, and no other colon is
missing on this line then. -/
theorem HasWordKeywords.missesColon_insertColon (words : table.HasWordKeywords) {program : Text}
    {missing : Diagnostic} (reported : missing ∈ table.validate program)
    (misses : missing.missesColon = true) :
    ∀ other ∈ table.validate (missing.insertColon program), other.line = missing.line →
      other.missesColon = false := by
  intro other found sameLine
  obtain ⟨above, first, second, below, typed, -, -, isRead⟩ :=
    words.exists_colonTyped reported misses
  by_contra missesOther
  rw [Bool.not_eq_false] at missesOther
  obtain ⟨line, isLine, -, -, reports⟩ := exists_of_missesColon found missesOther
  obtain ⟨problem, -, isOther⟩ := List.mem_map.1 reports
  have isSecond : second ∈ table.read (missing.insertColon program) := by
    rw [isRead]
    simp
  have sameNumber : line.number = second.number := by
    rw [← typed.alike.number, typed.number, ← sameLine, ← isOther]
  rw [eq_of_number_eq isLine isSecond sameNumber, colonDiagnostics_of_getLast? typed.ends]
    at reports
  cases reports

/-- Typing a missing colon where it is reported leaves the diagnostics of all other lines
as they are, except that the next line with code may lack its indentation then. -/
theorem HasWordKeywords.exists_filter_validate_insertColon (words : table.HasWordKeywords)
    {program : Text} {missing : Diagnostic} (reported : missing ∈ table.validate program)
    (misses : missing.missesColon = true) :
    ∃ extra : List Diagnostic,
      (extra = [] ∨ ∃ next, ((table.read program).drop missing.line).find? (·.hasCode) =
        some next ∧ extra = [⟨next.number, 1, 2, .missingIndentation⟩]) ∧
      (table.validate (missing.insertColon program)).filter (·.line != missing.line) =
        ((table.validate program).filter (·.line != missing.line) ++ extra).mergeSort
          Diagnostic.le := by
  obtain ⟨above, first, second, below, typed, number, isRead, isReadTyped⟩ :=
    words.exists_colonTyped reported misses
  have rises := table.pairwise_number_readFrom 1 .code program.lines
  rw [← read, isRead, List.pairwise_append, List.pairwise_cons] at rises
  have apart : ∀ next ∈ below, next.number ≠ missing.line := by
    intro next listed
    rw [← typed.number]
    exact Nat.ne_of_gt (rises.2.1.1 next listed)
  refine ⟨table.indentationDiagnostics second below, ?_, ?_⟩
  · have behind : (table.read program).drop missing.line = below := by
      rw [isRead, ← number, List.drop_length_add_append]
      rfl
    rw [behind]
    exact table.indentationDiagnostics_eq second below
  · apply eq_mergeSort_of_perm
    · exact (List.pairwise_mergeSort Diagnostic.le_trans Diagnostic.le_total _).filter _
    · exact (table.differ_validate _).filter _
    · have perm := typed.filter_diagnose_perm above apart
      rw [← isRead, ← isReadTyped] at perm
      have found (text : Text) := (List.mergeSort_perm (table.diagnose (table.read text))
        Diagnostic.le).filter (·.line != missing.line)
      exact (found (missing.insertColon program)).trans
        (perm.trans ((found program).symm.append_right _))

/-- At most one missing colon is reported for a line, and the place of the report is where
to type it: then no colon is missing on this line, and the diagnostics of all other lines
stay the same, except that the next line with code may lack its indentation. -/
theorem missingColon_insertion (program : Text) :
    (∀ number, (default.validate program).countP
        (fun diagnostic => diagnostic.missesColon && diagnostic.line == number) ≤ 1) ∧
      ∀ missing ∈ default.validate program, missing.missesColon = true →
        (∀ other ∈ default.validate (missing.insertColon program),
          other.line = missing.line → other.missesColon = false) ∧
        ∃ extra : List Diagnostic,
          (extra = [] ∨ ∃ next, ((default.read program).drop missing.line).find? (·.hasCode) =
            some next ∧ extra = [⟨next.number, 1, 2, .missingIndentation⟩]) ∧
          (default.validate (missing.insertColon program)).filter (·.line != missing.line) =
            ((default.validate program).filter (·.line != missing.line) ++ extra).mergeSort
              Diagnostic.le := by
  have words := default_hasWordKeywords
  exact ⟨default_hasHeadsApart.countP_missesColon_le_one program, fun missing reported misses =>
    ⟨words.missesColon_insertColon reported misses,
      words.exists_filter_validate_insertColon reported misses⟩⟩

/-- A colon that is missing in front of a comment with a quote in it. The line below is
reported for its parentheses before and after, and after for its indentation, too. -/
theorem missingColon_insertion_comment :
    let program : Text := "ukuba a # '\nbhala (b"
    let missing : Diagnostic := ⟨1, 8, 9, .conditionWithoutColon⟩
    missing ∈ default.validate program ∧ missing.missesColon = true ∧
      missing.insertColon program = ("ukuba a: # '\nbhala (b" : Text) ∧
      default.validate program = [missing, ⟨2, 1, 2, .unbalancedParentheses⟩] ∧
      default.validate (missing.insertColon program) =
        [⟨2, 1, 2, .unbalancedParentheses⟩, ⟨2, 1, 2, .missingIndentation⟩] ∧
      (∀ other ∈ default.validate (missing.insertColon program),
        other.line = missing.line → other.missesColon = false) ∧
      ∃ extra : List Diagnostic,
        (default.validate (missing.insertColon program)).filter (·.line != missing.line) =
          ((default.validate program).filter (·.line != missing.line) ++ extra).mergeSort
            Diagnostic.le := by
  intro program missing
  have evaluated : missing.insertColon program = ("ukuba a: # '\nbhala (b" : Text) ∧
      default.diagnose (default.read program) =
        [missing, ⟨2, 1, 2, .unbalancedParentheses⟩] ∧
      default.diagnose (default.read "ukuba a: # '\nbhala (b") =
        [⟨2, 1, 2, .missingIndentation⟩, ⟨2, 1, 2, .unbalancedParentheses⟩] := by
    decide +kernel
  obtain ⟨typed, foundBefore, foundAfter⟩ := evaluated
  have before : default.validate program = [missing, ⟨2, 1, 2, .unbalancedParentheses⟩] := by
    rw [validate, foundBefore, List.mergeSort_of_pairwise (by decide)]
  have after : default.validate (missing.insertColon program) =
      [⟨2, 1, 2, .unbalancedParentheses⟩, ⟨2, 1, 2, .missingIndentation⟩] := by
    rw [validate, typed, foundAfter]
    have differ : Diagnostic.DiffersFrom ⟨2, 1, 2, .unbalancedParentheses⟩
        ⟨2, 1, 2, .missingIndentation⟩ :=
      Diagnostic.differsFrom_of_number_ne (by decide)
    exact (eq_mergeSort_of_perm (by decide) (List.pairwise_pair.2 differ) (by decide)).symm
  have reported : missing ∈ default.validate program := by
    rw [before]
    exact List.mem_cons_self
  obtain ⟨settled, extra, -, others⟩ := (missingColon_insertion program).2 missing reported rfl
  exact ⟨reported, rfl, typed, before, after, settled, extra, others⟩

end Table

end KeywordBridge
