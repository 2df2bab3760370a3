import KeywordBridge.Proofs.Diagnostic.MissingColons
import KeywordBridge.Proofs.Program.Indentation

/-!
# Missing indentation

The head of a block looks down for the next line with code and blames it unless it is
indented deeper. Seen from the line that is blamed, this is a matter of the nearest line
with code above it: the line lacks its indentation if that line is the head of a block,
both lines start outside strings, and the line is not indented deeper than the head. So
no line is blamed twice.
-/

namespace KeywordBridge

/-- Is missing indentation reported? -/
def Diagnostic.missesIndentation (diagnostic : Diagnostic) : Bool :=
  diagnostic.problem = .missingIndentation

namespace Table

variable (table : Table)

/-- Does the line lack its indentation below the lines above it? It has code and starts
outside strings, and so does the nearest line with code above it, which is the head of a
block and indented at least as deep. -/
def lacksIndentation (above : List SourceLine) (line : SourceLine) : Bool :=
  line.hasCode && !line.continuesString &&
    (above.reverse.find? (·.hasCode)).any fun head =>
      !head.continuesString && table.blockWords.contains (head.code.trim.takeWhile isWordChar)
        && head.code.trim.getLast? == some ':' && indentation line.text ≤ indentation head.text

variable {table}

/-- Of the checks of a line, one reports missing indentation. -/
theorem mem_lineDiagnostics_of_missesIndentation {line : SourceLine} (whole : line.IsWhole)
    {following : List SourceLine} {diagnostic : Diagnostic}
    (misses : diagnostic.missesIndentation = true) :
    diagnostic ∈ table.lineDiagnostics line following ↔
      line.hasCode = true ∧ line.continuesString = false ∧
        diagnostic ∈ table.indentationDiagnostics line following := by
  have number : diagnostic.problem.number = 106 := by
    rw [of_decide_eq_true misses]
    rfl
  have other {numbers : List Nat} {found : List Diagnostic}
      (within : Diagnostic.DifferWithin numbers found) (apart : 106 ∉ numbers) :
      diagnostic ∉ found := fun member => apart (number ▸ within.kinds _ member)
  rw [mem_lineDiagnostics,
    or_iff_right (other (table.differWithin_colonDiagnostics line) (by decide)),
    or_iff_right (other (differWithin_parenthesisDiagnostics line) (by decide)),
    or_iff_left (other (table.differWithin_tokenDiagnostics whole) (by decide))]

/-- A head blames the next line with code, if that starts outside strings and is not
indented deeper. -/
theorem mem_indentationDiagnostics {head : SourceLine} {following : List SourceLine}
    {diagnostic : Diagnostic} :
    diagnostic ∈ table.indentationDiagnostics head following ↔
      isHead table.blockWords head.code.trim = true ∧
        ∃ next, following.find? (·.hasCode) = some next ∧ next.continuesString = false ∧
          indentation next.text ≤ indentation head.text ∧
            diagnostic = ⟨next.number, 1, 2, .missingIndentation⟩ := by
  unfold indentationDiagnostics
  split
  · rename_i opens
    cases following.find? (·.hasCode) with
    | none => simp
    | some next =>
        simp only [opens, Option.some.injEq, exists_eq_left', true_and]
        split
        · rename_i excused
          rw [Bool.or_eq_true, decide_eq_true_eq] at excused
          refine iff_of_false List.not_mem_nil ?_
          rintro ⟨outside, shallow, -⟩
          rw [outside, or_iff_right Bool.false_ne_true] at excused
          omega
        · rename_i blamed
          simp only [Bool.or_eq_true, decide_eq_true_eq, not_or, Bool.not_eq_true] at blamed
          simp only [List.mem_singleton, blamed.1, Nat.le_of_not_lt blamed.2, true_and]
  · rename_i other
    refine iff_of_false List.not_mem_nil ?_
    rintro ⟨opens, -⟩
    exact other opens

/-- In lines with different numbers, a line is blamed for its indentation exactly if it
lacks it below the lines above it. -/
theorem mem_diagnose_iff_lacksIndentation (isWord : ∀ word ∈ table.blockWords, word.IsWord)
    {above below : List SourceLine} {line : SourceLine}
    (wholes : ∀ other ∈ above ++ line :: below, other.IsWhole)
    (numbers : ((above ++ line :: below).map SourceLine.number).Nodup) :
    ⟨line.number, 1, 2, .missingIndentation⟩ ∈ table.diagnose (above ++ line :: below) ↔
      table.lacksIndentation above line = true := by
  have lacks : table.lacksIndentation above line = true ↔
      (line.hasCode = true ∧ line.continuesString = false) ∧
        ∃ head, above.reverse.find? (·.hasCode) = some head ∧ head.continuesString = false ∧
          isHead table.blockWords head.code.trim = true ∧
            indentation line.text ≤ indentation head.text := by
    simp only [lacksIndentation, Bool.and_eq_true, Bool.not_eq_true', Option.any_eq_true,
      isHead_iff isWord, List.contains_iff_mem, beq_iff_eq, decide_eq_true_eq, and_assoc]
  rw [lacks, mem_diagnose]
  constructor
  · rintro ⟨upper, head, lower, split, found⟩
    have isHere : head ∈ above ++ line :: below := by
      rw [split]
      exact List.mem_append_right upper List.mem_cons_self
    obtain ⟨written, outside, reports⟩ :=
      (mem_lineDiagnostics_of_missesIndentation (wholes head isHere) rfl).1 found
    obtain ⟨opens, next, isNext, outsideNext, shallow, same⟩ := mem_indentationDiagnostics.1 reports
    obtain ⟨writtenNext, between, rest, rfl, blank⟩ := List.find?_eq_some_iff_append.1 isNext
    -- The blamed line is the given one, so the lines in front of it are the given ones.
    have isLine : line = next := by
      apply List.inj_on_of_nodup_map numbers (List.mem_append_right above List.mem_cons_self) _
        (congrArg Diagnostic.line same)
      rw [split]
      simp
    subst isLine
    have unique : above = upper ++ head :: between := by
      have once := List.nodup_cons.1 (List.nodup_middle.1 numbers.of_map)
      rw [List.mem_append, not_or] at once
      have same : above ++ line :: below = (upper ++ head :: between) ++ line :: rest := by
        rw [split, List.append_assoc, List.cons_append]
      exact ((List.append_cons_inj_of_notMem once.1.1 once.1.2).1 same).1
    refine ⟨⟨writtenNext, outsideNext⟩, head, ?_, outside, opens, shallow⟩
    rw [unique, List.find?_eq_some_iff_append]
    refine ⟨written, between.reverse, upper.reverse, by simp, fun other listed => ?_⟩
    exact blank other (List.mem_reverse.1 listed)
  · rintro ⟨⟨written, outside⟩, head, nearest, outsideHead, opens, shallow⟩
    obtain ⟨writtenHead, between, upper, split, blank⟩ := List.find?_eq_some_iff_append.1 nearest
    have splitAbove : above = upper.reverse ++ head :: between.reverse := by
      rw [← above.reverse_reverse, split]
      simp
    subst splitAbove
    refine ⟨upper.reverse, head, between.reverse ++ line :: below, by simp, ?_⟩
    rw [mem_lineDiagnostics_of_missesIndentation (wholes head (by simp)) rfl]
    refine ⟨writtenHead, outsideHead, mem_indentationDiagnostics.2 ⟨opens, line, ?_, outside,
      shallow, rfl⟩⟩
    rw [List.find?_eq_some_iff_append]
    refine ⟨written, between.reverse, below, rfl, fun other listed => ?_⟩
    exact blank other (List.mem_reverse.1 listed)

/-- The eleven words that head a block in the default table. -/
theorem default_blockWords :
    default.blockWords =
      ["ukuba", "okanye_ukuba", "enye", "ngokulandelelana", "ngexesha", "chaza", "iklasi",
        "zama", "ngaphandle", "ekugqibeleni", "nge"] := by
  decide +kernel

/-- Missing indentation is reported exactly for the lines that lack it, once each and in
the first column. The indentation of a line is the number of spaces that it starts with
when its tabs are expanded. -/
theorem missingIndentation_exact {program : Text} {above below : List SourceLine}
    {line : SourceLine} (split : default.read program = above ++ line :: below) :
    (default.validate program).filter
          (fun diagnostic => diagnostic.missesIndentation && diagnostic.line == line.number) =
        (if default.lacksIndentation above line then
          [⟨line.number, 1, 2, .missingIndentation⟩] else []) ∧
      ∀ text : Text, indentation text = text.expandTabs.leadingSpaces := by
  refine ⟨?_, indentation_eq_expandTabs⟩
  have wholes : ∀ other ∈ above ++ line :: below, other.IsWhole := by
    rw [← split]
    exact fun _ => SourceLine.isWhole_of_mem_readFrom
  have numbers : ((above ++ line :: below).map SourceLine.number).Nodup := by
    rw [← split]
    exact List.pairwise_map.2
      ((pairwise_number_readFrom 1 .code program.lines).imp Nat.ne_of_lt)
  have isWord : ∀ word ∈ default.blockWords, word.IsWord := by
    rw [default_blockWords]
    decide
  have only : ∀ diagnostic ∈ default.validate program,
      (diagnostic.missesIndentation && diagnostic.line == line.number) = true ↔
        diagnostic = ⟨line.number, 1, 2, .missingIndentation⟩ := by
    intro diagnostic reported
    rw [Bool.and_eq_true, beq_iff_eq]
    constructor
    · rintro ⟨misses, number⟩
      obtain ⟨upper, head, lower, split', found⟩ :=
        default.mem_diagnose.1 (List.mem_mergeSort.1 reported)
      have isLine : head ∈ default.read program := by
        rw [split']
        exact List.mem_append_right upper List.mem_cons_self
      have whole : head.IsWhole := SourceLine.isWhole_of_mem_readFrom isLine
      obtain ⟨-, -, reports⟩ := (mem_lineDiagnostics_of_missesIndentation whole misses).1 found
      obtain ⟨-, next, -, -, -, rfl⟩ := mem_indentationDiagnostics.1 reports
      rw [← number]
    · rintro rfl
      exact ⟨rfl, rfl⟩
  rw [default.filter_validate_of_only program only]
  have found : ⟨line.number, 1, 2, .missingIndentation⟩ ∈ default.validate program ↔
      default.lacksIndentation above line = true := by
    rw [validate, List.mem_mergeSort, split,
      mem_diagnose_iff_lacksIndentation isWord wholes numbers]
  simp only [found]

/-- Below a head that is indented by a tab, behind a comment and a blank line, four spaces
are not enough. -/
theorem missingIndentation_exact_tab :
    let program : Text := "ukuba a:\n\tnge b: # :\n  # c\n\n    d"
    ∃ above line, default.read program = above ++ line :: [] ∧ line.number = 5 ∧
      default.lacksIndentation above line = true ∧
      (default.validate program).filter
          (fun diagnostic => diagnostic.missesIndentation && diagnostic.line == line.number) =
        [⟨5, 1, 2, .missingIndentation⟩] := by
  intro program
  have evaluated : (default.read program)[4]?.any (fun line =>
      line.number == 5 && default.lacksIndentation ((default.read program).take 4) line) = true ∧
      (default.read program).length = 5 := by
    decide +kernel
  obtain ⟨last, five⟩ := evaluated
  obtain ⟨line, isLine, facts⟩ := (Option.any_eq_true _ _).1 last
  rw [Bool.and_eq_true, beq_iff_eq] at facts
  obtain ⟨inside, here⟩ := List.getElem?_eq_some_iff.1 isLine
  have split : default.read program = (default.read program).take 4 ++ line :: [] := by
    have behind : (default.read program).drop 5 = [] := List.drop_eq_nil_of_le (Nat.le_of_eq five)
    rw [← behind, ← here, List.getElem_cons_drop, List.take_append_drop]
  have reported := (missingIndentation_exact split).1
  rw [if_pos facts.2, facts.1] at reported
  refine ⟨_, line, split, facts.1, facts.2, ?_⟩
  rw [facts.1]
  exact reported

end Table

end KeywordBridge
