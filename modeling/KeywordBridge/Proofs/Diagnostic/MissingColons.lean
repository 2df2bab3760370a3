import KeywordBridge.Keyword.Default
import KeywordBridge.Proofs.Diagnostic.Placement
import KeywordBridge.Proofs.Program.DefinitionLines
import Mathlib.Data.List.Nodup

/-!
# Missing colons

Five checks look for the missing colon of a head. Which of them can apply to code is
told by the word that the code starts with: no check looks for a part of a longer word,
and the words of different checks differ, except that one word may stand alone or with
something behind it. So a line is reported for one missing colon at most.
-/

namespace KeywordBridge

/-- Is a missing colon reported? -/
def Diagnostic.missesColon (diagnostic : Diagnostic) : Bool :=
  [101, 102, 103, 104, 109].contains diagnostic.problem.number

namespace Text

theorem append_of_dropStart? {word text rest : Text} (starts : dropStart? word text = some rest) :
    text = word ++ rest := by
  unfold dropStart? at starts
  split at starts
  · rename_i isPrefix
    obtain ⟨behind, rfl⟩ := List.isPrefixOf_iff_prefix.1 isPrefix
    rw [List.drop_left] at starts
    rw [Option.some.inj starts]
  · cases starts

/-- What a text starts with is its first word if something else follows. -/
theorem takeWhile_of_dropStart? {word text rest : Text} (isWord : word.IsWord)
    (starts : dropStart? word text = some rest) (stop : isWordSide rest.head? = false) :
    text.takeWhile isWordChar = word := by
  rw [append_of_dropStart? starts, takeWhile_append_of_stop isWord.2 stop]

theorem IsWord.takeWhile_eq {word : Text} (isWord : word.IsWord) :
    word.takeWhile isWordChar = word :=
  List.takeWhile_eq_self_iff.2 isWord.2

end Text

/-! ## The first word of a head -/

/-- A head word that is found is one of the list, the first word of the code, and not
alone. -/
theorem first_of_headWord? {words : List Text} (isWord : ∀ word ∈ words, word.IsWord)
    {code word : Text} (found : headWord? words code = some word) :
    word ∈ words ∧ code.takeWhile isWordChar = word ∧ word ≠ code := by
  obtain ⟨listed, follows⟩ := List.mem_filter.1 (mem_of_longest? found)
  split at follows
  · rename_i c rest starts
    have mark : isWordChar c = false := by
      rw [Bool.or_eq_true, beq_iff_eq] at follows
      rcases follows with blank | rfl
      · exact Text.isWordChar_blank blank
      · decide
    refine ⟨listed, Text.takeWhile_of_dropStart? (isWord word listed) starts mark, ?_⟩
    intro alone
    have length := congrArg List.length (Text.append_of_dropStart? starts)
    rw [← alone, List.length_append, List.length_cons] at length
    omega
  · cases follows

/-- The introducing word of a function is the first word of the code. -/
theorem first_of_functionHere? {word code name : Text} (isWord : word.IsWord)
    (found : functionHere? word code = some name) : code.takeWhile isWordChar = word := by
  simp only [functionHere?, introduced?, Option.bind_eq_bind, Option.bind_eq_some_iff] at found
  obtain ⟨_, ⟨rest, starts, behind, blanks, -⟩, -⟩ := found
  apply Text.takeWhile_of_dropStart? isWord starts
  cases rest with
  | nil => rfl
  | cons c others =>
      simp only [Text.dropBlanks?] at blanks
      split at blanks
      · exact Text.isWordChar_blank ‹_›
      · cases blanks

/-- The head of a block ends with a colon. -/
theorem getLast?_of_isHead {words : List Text} {code : Text} (head : isHead words code = true) :
    code.getLast? = some ':' := by
  obtain ⟨word, -, opens⟩ := List.any_eq_true.1 head
  split at opens
  · rename_i rest starts
    rw [Bool.and_eq_true, beq_iff_eq] at opens
    rw [Text.append_of_dropStart? starts, List.getLast?_append, opens.2, Option.some_or]
  · cases opens

/-- Code is the head of a block if its first word opens blocks and it ends with a
colon. -/
theorem isHead_iff {words : List Text} (isWord : ∀ word ∈ words, word.IsWord) {code : Text} :
    isHead words code = true ↔
      code.takeWhile isWordChar ∈ words ∧ code.getLast? = some ':' := by
  have split : code.takeWhile isWordChar ++ code.dropWhile isWordChar = code :=
    List.takeWhile_append_dropWhile
  constructor
  · intro head
    refine ⟨?_, getLast?_of_isHead head⟩
    obtain ⟨word, listed, opens⟩ := List.any_eq_true.1 head
    split at opens
    · rename_i rest starts
      rw [Bool.and_eq_true, Text.isBoundary, (isWord word listed).isWordSide_getLast?,
        bne_iff_ne] at opens
      have stop : Text.isWordSide rest.head? = false := by simpa using opens.1.symm
      rwa [Text.takeWhile_of_dropStart? (isWord word listed) starts stop]
    · cases opens
  · rintro ⟨listed, colon⟩
    have starts : Text.dropStart? (code.takeWhile isWordChar) code =
        some (code.dropWhile isWordChar) := by
      rw [Text.dropStart?, if_pos (List.isPrefixOf_iff_prefix.2 (List.takeWhile_prefix _))]
      conv_lhs => rw [← split, List.drop_left' (by rw [split])]
    have behind : (code.dropWhile isWordChar).getLast? = some ':' := by
      have nonempty : code.dropWhile isWordChar ≠ [] := by
        intro empty
        have inside := List.dropWhile_eq_nil_iff.1 empty ':' (List.mem_of_mem_getLast? colon)
        exact absurd inside (by decide)
      rwa [← split, List.getLast?_append_of_ne_nil _ nonempty] at colon
    rw [isHead, List.any_eq_true]
    refine ⟨_, listed, ?_⟩
    rw [starts]
    simp only [Text.isBoundary, (isWord _ listed).isWordSide_getLast?,
      Text.isWordSide_head?_dropWhile, behind]
    rfl

namespace Table

/-- The words that open blocks are words, and those of different checks for a colon
differ, except that one may stand alone or with something behind it. -/
structure HasHeadsApart (table : Table) : Prop where
  isWord : ∀ word ∈ table.functionWord ::
    (table.conditionWords ++ table.bareWords ++ table.loopWords ++ table.statementWords),
    word.IsWord
  condition : ∀ word ∈ table.functionWord ::
    (table.bareWords ++ table.loopWords ++ table.statementWords), word ∉ table.conditionWords
  function : ∀ word ∈ table.bareWords ++ table.loopWords ++ table.statementWords,
    word ≠ table.functionWord
  loop : ∀ word ∈ table.bareWords ++ table.statementWords, word ∉ table.loopWords

theorem default_hasHeadsApart : default.HasHeadsApart where
  isWord := by decide +kernel
  condition := by decide +kernel
  function := by decide +kernel
  loop := by decide +kernel

/-- The number of the missing colon that can be reported for code, told by its first
word. -/
def colonNumber (table : Table) (code : Text) : Nat :=
  let first := code.takeWhile isWordChar
  if table.conditionWords.contains first then 101
  else if first = table.functionWord then 103
  else if table.loopWords.contains first then 104
  else if first = code then 102
  else 109

variable {table : Table} (apart : table.HasHeadsApart)

include apart

theorem HasHeadsApart.number_of_mem_colonProblems {code : Text} {problem : Problem}
    (member : problem ∈ table.colonProblems code) : problem.number = table.colonNumber code := by
  have single {held : Prop} [Decidable held] {found : Problem}
      (listed : problem ∈ if held then [found] else []) : held ∧ problem = found := by
    split at listed
    · exact ⟨‹_›, List.mem_singleton.1 listed⟩
    · cases listed
  have isWord := apart.isWord
  have condition := apart.condition
  have function := apart.function
  have loop := apart.loop
  simp only [List.forall_mem_cons, List.forall_mem_append] at isWord condition function loop
  obtain ⟨isFunction, ⟨⟨isCondition, isBare⟩, isLoop⟩, isStatement⟩ := isWord
  unfold colonProblems at member
  split at member
  · cases member
  · simp only [List.mem_append, Option.mem_toList, Option.map_eq_some_iff] at member
    simp only [colonNumber, List.contains_iff_mem]
    rcases member with (((member | member) | member) | member) | ⟨word, found, rfl⟩
    · obtain ⟨holds, rfl⟩ := single member
      obtain ⟨word, found⟩ := Option.isSome_iff_exists.1 holds
      obtain ⟨listed, rfl, -⟩ := first_of_headWord? isCondition found
      rw [if_pos listed]
      rfl
    · obtain ⟨holds, rfl⟩ := single member
      have listed := List.contains_iff_mem.1 holds
      rw [(isBare code listed).takeWhile_eq, if_neg (condition.2.1.1 code listed),
        if_neg (function.1.1 code listed), if_neg (loop.1 code listed), if_pos rfl]
      rfl
    · obtain ⟨holds, rfl⟩ := single member
      obtain ⟨name, found⟩ := Option.isSome_iff_exists.1 holds
      rw [first_of_functionHere? isFunction found, if_neg condition.1, if_pos rfl]
      rfl
    · obtain ⟨holds, rfl⟩ := single member
      obtain ⟨word, found⟩ := Option.isSome_iff_exists.1 holds
      obtain ⟨listed, rfl, -⟩ := first_of_headWord? isLoop found
      rw [if_neg (condition.2.1.2 _ listed), if_neg (function.1.2 _ listed), if_pos listed]
      rfl
    · obtain ⟨listed, rfl, other⟩ := first_of_headWord? isStatement found
      rw [if_neg (condition.2.2 _ listed), if_neg (function.2 _ listed),
        if_neg (loop.2 _ listed), if_neg other]
      rfl

/-- At most one colon is missing. -/
theorem HasHeadsApart.eq_of_mem_colonProblems {code : Text} {first second : Problem}
    (isFirst : first ∈ table.colonProblems code) (isSecond : second ∈ table.colonProblems code) :
    first = second := by
  have rising : [101, 102, 103, 104, 109].Nodup := by decide
  have differ := rising.sublist (table.numbers_colonProblems code)
  apply List.inj_on_of_nodup_map differ isFirst isSecond
  rw [apart.number_of_mem_colonProblems isFirst, apart.number_of_mem_colonProblems isSecond]

omit apart in
/-- Only the check of the head of a line reports missing colons. -/
theorem mem_colonDiagnostics_of_missesColon {line : SourceLine} (whole : line.IsWhole)
    {following : List SourceLine} {diagnostic : Diagnostic}
    (member : diagnostic ∈ table.lineDiagnostics line following)
    (misses : diagnostic.missesColon = true) :
    line.hasCode = true ∧ line.continuesString = false ∧
      diagnostic ∈ table.colonDiagnostics line := by
  have other {numbers : List Nat} (kind : diagnostic.problem.number ∈ numbers)
      (apart : ∀ number ∈ numbers, [101, 102, 103, 104, 109].contains number = false) : False := by
    rw [Diagnostic.missesColon, apart _ kind] at misses
    cases misses
  obtain ⟨written, ⟨outside, colon | indentation⟩ | parentheses | tokens⟩ :=
    table.mem_lineDiagnostics.1 member
  · exact ⟨written, outside, colon⟩
  · exact (other ((table.differWithin_indentationDiagnostics line following).kinds _
      indentation) (by decide)).elim
  · exact (other ((differWithin_parenthesisDiagnostics line).kinds _ parentheses)
      (by decide)).elim
  · exact (other ((table.differWithin_tokenDiagnostics whole).kinds _ tokens) (by decide)).elim

omit apart in
/-- A missing colon is reported for the code of one line, which lies outside strings that
go on from above. -/
theorem exists_of_missesColon {program : Text} {diagnostic : Diagnostic}
    (reported : diagnostic ∈ table.validate program) (misses : diagnostic.missesColon = true) :
    ∃ line ∈ table.read program, line.hasCode = true ∧ line.continuesString = false ∧
      diagnostic ∈ table.colonDiagnostics line := by
  have wholes : ∀ line ∈ table.read program, line.IsWhole :=
    fun _ => SourceLine.isWhole_of_mem_readFrom
  have found : diagnostic ∈ table.diagnose (table.read program) := List.mem_mergeSort.1 reported
  generalize table.read program = lines at wholes found ⊢
  induction lines with
  | nil => cases found
  | cons line following ih =>
      rw [List.forall_mem_cons] at wholes
      rcases List.mem_append.1 found with here | behind
      · exact ⟨line, List.mem_cons_self, mem_colonDiagnostics_of_missesColon wholes.1 here misses⟩
      · obtain ⟨place, listed, reports⟩ := ih wholes.2 behind
        exact ⟨place, List.mem_cons_of_mem line listed, reports⟩

omit apart in
/-- Lines of a program with one number are one line. -/
theorem eq_of_number_eq {program : Text} {first second : SourceLine}
    (isFirst : first ∈ table.read program) (isSecond : second ∈ table.read program)
    (same : first.number = second.number) : first = second := by
  have numbers : ((table.read program).map SourceLine.number).Nodup :=
    List.pairwise_map.2 ((table.pairwise_number_readFrom 1 .code program.lines).imp Nat.ne_of_lt)
  exact List.inj_on_of_nodup_map numbers isFirst isSecond same

/-- Missing colons that are reported for one line are the same. -/
theorem HasHeadsApart.eq_of_missesColon {program : Text} {first second : Diagnostic}
    (isFirst : first ∈ table.validate program) (missesFirst : first.missesColon = true)
    (isSecond : second ∈ table.validate program) (missesSecond : second.missesColon = true)
    (sameLine : first.line = second.line) : first = second := by
  obtain ⟨line, listed, -, -, reports⟩ := exists_of_missesColon isFirst missesFirst
  obtain ⟨other, listedOther, -, -, reportsOther⟩ := exists_of_missesColon isSecond missesSecond
  obtain ⟨problem, found, rfl⟩ := List.mem_map.1 reports
  obtain ⟨problem', found', rfl⟩ := List.mem_map.1 reportsOther
  obtain rfl := eq_of_number_eq listed listedOther sameLine
  rw [apart.eq_of_mem_colonProblems found found']

/-- A line is reported for one missing colon at most. -/
theorem HasHeadsApart.countP_missesColon_le_one (program : Text) (number : Nat) :
    (table.validate program).countP
      (fun diagnostic => diagnostic.missesColon && diagnostic.line == number) ≤ 1 := by
  let onLine (diagnostic : Diagnostic) := diagnostic.missesColon && diagnostic.line == number
  have nodup : ((table.validate program).filter onLine).Nodup :=
    ((table.differ_validate program).imp Diagnostic.DiffersFrom.ne).filter onLine
  have same : ∀ first ∈ (table.validate program).filter onLine,
      ∀ second ∈ (table.validate program).filter onLine, first = second := by
    intro first isFirst second isSecond
    simp only [List.mem_filter, onLine, Bool.and_eq_true, beq_iff_eq] at isFirst isSecond
    exact apart.eq_of_missesColon isFirst.1 isFirst.2.1 isSecond.1 isSecond.2.1
      (isFirst.2.2.trans isSecond.2.2.symm)
  rw [List.countP_eq_length_filter]
  match (table.validate program).filter onLine, nodup, same with
  | [], _, _ => exact Nat.zero_le 1
  | [_], _, _ => exact Nat.le_refl 1
  | first :: second :: _, nodup, same =>
      have equal := same first List.mem_cons_self second (List.mem_cons_of_mem _ List.mem_cons_self)
      exact absurd (equal ▸ List.mem_cons_self) (List.nodup_cons.1 nodup).1

end Table

end KeywordBridge
