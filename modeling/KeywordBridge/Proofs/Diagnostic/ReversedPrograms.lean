import KeywordBridge.Proofs.Diagnostic.Composition
import KeywordBridge.Proofs.Diagnostic.TargetKeywords
import KeywordBridge.Proofs.Translation.LexicalStructure

/-!
# Target keywords after the reverse translation

The reverse translation replaces the target keywords among the runs of word characters
and leaves none of them behind. The checks look at name tokens instead, and behind the
digits of a number a name token starts inside a run. So a target keyword is still
reported where it is the end of a run behind a decimal digit, and nowhere else.
-/

namespace KeywordBridge

namespace Text

theorem isWordSide_eq_false {mark : Char} (outside : isWordChar mark = false)
    {side : Option Char} (marks : ∀ c ∈ side, c = mark) : isWordSide side = false := by
  cases side with
  | none => rfl
  | some c => rwa [marks c rfl]

theorem isWordSide_getLast?_append {above : Text} (outside : isWordSide above.getLast? = false)
    (front : Text) : isWordSide (above ++ front).getLast? = isWordSide front.getLast? := by
  cases front with
  | nil => rw [List.append_nil, outside]; rfl
  | cons c others => rw [List.getLast?_append_of_ne_nil _ (List.cons_ne_nil c others)]

theorem isWordSide_head?_append {below : Text} (outside : isWordSide below.head? = false)
    (back : Text) : isWordSide (back ++ below).head? = isWordSide back.head? := by
  cases back with
  | nil => rw [List.nil_append, outside]; rfl
  | cons c others => rfl

/-- No word of a program goes on beyond the ends of a line. -/
theorem exists_around_line {program line : Text} (listed : line ∈ program.lines) :
    ∃ above below, program = above ++ (line.dropReturns ++ below) ∧
      isWordSide above.getLast? = false ∧ isWordSide below.head? = false := by
  obtain ⟨above, below, rfl, opens, closes⟩ := exists_append_of_mem_cutAt listed
  have outside : isWordSide below.head? = false := isWordSide_eq_false (by decide) closes
  refine ⟨above, line.returns ++ below, ?_, isWordSide_eq_false (by decide) opens, ?_⟩
  · rw [← List.append_assoc line.dropReturns, dropReturns_append_returns]
  · rw [isWordSide_head?_append outside]
    exact isWordSide_eq_false (by decide) fun c first =>
      eq_return_of_mem_returns (List.mem_of_mem_head? first)

end Text

namespace Table

section

variable {table : Table} (words : table.HasWordKeywords)

include words

/-- A run of the reverse translation is a surface keyword or a run of the text that is no
target keyword. -/
theorem HasWordKeywords.mem_wordRuns_reverse {text run : Text}
    (isRun : run ∈ (table.reverse text).wordRuns) :
    run ∈ table.surfaces ∨ run ∈ text.wordRuns ∧ run ∉ table.targets := by
  by_cases blank : text.isBlank = true
  · rw [reverse, replaceKeywords, if_pos blank, Text.wordRuns, Text.pieces_nil] at isRun
    cases isRun
  · rw [words.reverse_eq_mapWords (Bool.eq_false_iff.2 blank),
      Text.wordRuns_mapWords words.isWord_reverseWord, List.mem_map] at isRun
    obtain ⟨other, isOther, rfl⟩ := isRun
    by_cases listed : other ∈ table.targets
    · exact .inl (table.reverseWord_of_mem_targets listed).1
    · rw [table.reverseWord_of_not_mem_targets listed]
      exact .inr ⟨isOther, listed⟩

/-- What is reported as a target keyword is the end of a run, and it is a whole run if
it does not follow a decimal digit. -/
theorem HasWordKeywords.exists_run_of_mem_validate {program : Text} {diagnostic : Diagnostic}
    (reported : diagnostic ∈ table.validate program) (number : diagnostic.problem.number = 107) :
    ∃ surface word front, diagnostic.problem = .targetKeyword surface word ∧
      word ∈ table.targets ∧ front ++ word ∈ program.wordRuns ∧
      (front ≠ [] → diagnostic.isBehindDigit program = true ∧
        front.getLast? = (diagnostic.front program).getLast?) := by
  obtain ⟨index, line, mode, earlier, word, later, surface, isLine, known, split, isTarget, same⟩ :=
    words.exists_of_mem_validate reported number
  obtain ⟨isName, stop⟩ := isName_of_identifier words.isWord_of_mem_surfaces known split
  have source := table.source_scanLine mode line.dropReturns
  rw [split, Lexeme.source_append, Lexeme.source_cons] at source
  obtain ⟨above, below, whole, outside, outsideBelow⟩ :=
    Text.exists_around_line (List.mem_of_getElem? isLine)
  rw [← Text.isWordSide_head?_append outsideBelow] at stop
  obtain ⟨before, front, cut, maximal⟩ :=
    Text.exists_isMaximalRun (above ++ Lexeme.source earlier) isName.1 stop
  have isRun : front ++ word ∈ program.wordRuns := by
    have around : program = above ++ Lexeme.source earlier ++
        (word ++ (Lexeme.source later ++ below)) := by
      rw [whole, ← source]
      simp only [List.append_assoc]
    have here := maximal.mem_wordRuns
    rwa [List.append_assoc, ← List.append_assoc before, ← cut, ← around] at here
  have isFront : diagnostic.front program = Lexeme.source earlier := by
    rw [same]
    exact front_eq_source isLine split _ _
  refine ⟨surface, word, front, ?_, mem_targets_of_surfaceFor? isTarget, isRun, ?_⟩
  · rw [same]
  · intro goesOn
    have ends : (above ++ Lexeme.source earlier).getLast? = front.getLast? := by
      rw [cut, List.getLast?_append_of_ne_nil _ goesOn]
    have isWord : front.IsWord :=
      ⟨goesOn, fun c member => maximal.isWord.2 c (List.mem_append_left word member)⟩
    have inside : Text.isWordSide (Lexeme.source earlier).getLast? = true := by
      rw [← Text.isWordSide_getLast?_append outside, ends, isWord.isWordSide_getLast?]
    have nonempty : Lexeme.source earlier ≠ [] := by
      intro empty
      rw [empty] at inside
      cases inside
    rw [List.getLast?_append_of_ne_nil _ nonempty] at ends
    rw [← isFront] at inside ends
    exact ⟨words.isBehindDigit_of_isWordSide reported number inside, ends.symm⟩

end

/-- The surface keywords of the default table are neither target keywords nor do they have
digits. -/
theorem default_surfaces_apart : ∀ word ∈ default.surfaces,
    word ∉ default.targets ∧ word.any isDecimalDigit = false := by
  decide +kernel

/-- What is reported as a target keyword after the reverse translation directly follows a
decimal digit, and the two belong to one run of the text that was translated. So nothing
is reported if no run of the text ends with a digit and a target keyword. -/
theorem targetKeyword_of_reverse {text : Text} {diagnostic : Diagnostic}
    (reported : diagnostic ∈ default.validate (default.reverse text))
    (number : diagnostic.problem.number = 107) :
    diagnostic.isBehindDigit (default.reverse text) = true ∧
      ∃ surface word, diagnostic.problem = .targetKeyword surface word ∧
        word ∈ default.targets ∧
        ∃ run ∈ text.wordRuns, ∃ front digit, run = front ++ digit :: word ∧
          isDecimalDigit digit = true := by
  have words := default_hasWordKeywords
  obtain ⟨surface, word, front, isProblem, isTarget, isRun, behind⟩ :=
    words.exists_run_of_mem_validate reported number
  have nonempty : front ≠ [] := by
    rintro rfl
    rcases words.mem_wordRuns_reverse isRun with isSurface | ⟨-, noTarget⟩
    · exact (default_surfaces_apart word isSurface).1 isTarget
    · exact noTarget isTarget
  obtain ⟨digits, last⟩ := behind nonempty
  obtain ⟨start, digit, rfl⟩ := (List.eq_nil_or_concat' front).resolve_left nonempty
  have decimal : isDecimalDigit digit = true := by
    rwa [Diagnostic.isBehindDigit, ← last, List.getLast?_concat, Option.any_some] at digits
  rw [List.append_assoc, List.singleton_append] at isRun
  refine ⟨digits, surface, word, isProblem, isTarget, start ++ digit :: word, ?_, start, digit,
    rfl, decimal⟩
  rcases words.mem_wordRuns_reverse isRun with isSurface | ⟨kept, -⟩
  · -- No surface keyword has a digit, so this run was in the text before.
    have noDigit := (default_surfaces_apart _ isSurface).2
    rw [List.any_eq_false] at noDigit
    exact absurd decimal (noDigit digit (List.mem_append_right start List.mem_cons_self))
  · exact kept

/-- A target keyword behind a number belongs to the run of the number, so the reverse
translation keeps it, and it is reported. -/
theorem validate_reverse_number :
    default.validate (default.reverse "x = 1if y else 2") =
      [⟨1, 6, 8, .targetKeyword "ukuba" "if"⟩] := by
  have found : default.diagnose (default.read (default.reverse "x = 1if y else 2")) =
      [⟨1, 6, 8, .targetKeyword "ukuba" "if"⟩] := by
    decide +kernel
  rw [validate, found, List.mergeSort_singleton]

theorem targetKeyword_of_reverse_number :
    let diagnostic : Diagnostic := ⟨1, 6, 8, .targetKeyword "ukuba" "if"⟩
    let text : Text := "x = 1if y else 2"
    diagnostic ∈ default.validate (default.reverse text) ∧ diagnostic.problem.number = 107 ∧
      diagnostic.isBehindDigit (default.reverse text) = true ∧
      ∃ surface word, diagnostic.problem = .targetKeyword surface word ∧
        word ∈ default.targets ∧
        ∃ run ∈ text.wordRuns, ∃ front digit, run = front ++ digit :: word ∧
          isDecimalDigit digit = true := by
  intro diagnostic text
  have reported : diagnostic ∈ default.validate (default.reverse text) := by
    rw [validate_reverse_number]
    exact List.mem_cons_self
  exact ⟨reported, rfl, targetKeyword_of_reverse reported rfl⟩

/-- The reverse translation does not rule out that target keywords are reported. -/
theorem exists_targetKeyword_of_reverse :
    ¬ ∀ text : Text, ∀ diagnostic ∈ default.validate (default.reverse text),
      diagnostic.problem.number ≠ 107 := by
  intro never
  have reported := validate_reverse_number
  exact never "x = 1if y else 2" _ (by rw [reported]; exact List.mem_cons_self) rfl

end Table

end KeywordBridge
