import KeywordBridge.Proofs.Token.Rules

/-!
# Tokens of code that end in front of a string or a comment

A token of code does not depend on what follows the code it stands in, be it a quote, a
number sign or blanks in front of them: no number, name or operator goes on there. Only
blanks join the blanks in front of them.
-/

namespace KeywordBridge

/-! ## Runs -/

theorem head?_dropWhile_eq_false {p : Char → Bool} (text : Text) :
    ∀ c ∈ (text.dropWhile p).head?, p c = false := by
  intro c first
  have here := List.head?_dropWhile_not p text
  rw [first] at here
  exact here

theorem countWhile_run {p : Char → Bool} {run rest : Text} (all : ∀ c ∈ run, p c = true)
    (stop : ∀ c ∈ rest.head?, p c = false) : Text.countWhile p (run ++ rest) = run.length := by
  rw [Text.countWhile, takeWhile_append_of_head stop, List.takeWhile_eq_self_iff.2 all]

/-- A run that ends inside a text does not depend on what follows. -/
theorem countWhile_append_of_not_all {p : Char → Bool} {text : Text}
    (ends : ¬ ∀ c ∈ text, p c = true) (rest : Text) :
    Text.countWhile p (text ++ rest) = Text.countWhile p text := by
  have short : (text.takeWhile p).length ≠ text.length := fun whole =>
    ends (List.takeWhile_eq_self_iff.1 ((List.takeWhile_prefix p).eq_of_length whole))
  rw [Text.countWhile, List.takeWhile_append, if_neg short, Text.countWhile]

/-! ## What ends a run of code -/

/-- Does the text start with a quote, a number sign or a blank, unless it is empty? -/
def Text.StopsCode (text : Text) : Prop :=
  ∀ d ∈ text.head?, leavesCode d = true ∨ separates d = true

/-- The characters that may stand behind a token of code. -/
def stopCharacters : Text :=
  "\"'# \t\r\x0c\x0b"

theorem mem_stopCharacters {d : Char} (stops : leavesCode d = true ∨ separates d = true) :
    d ∈ stopCharacters := by
  rcases stops with leaves | separator
  · rcases leavesCode_cases leaves with ⟨quote, rfl⟩ | rfl
    · cases quote <;> decide
    · decide
  · simp only [separates, Bool.or_eq_true, beq_iff_eq] at separator
    rcases separator with (((rfl | rfl) | rfl) | rfl) | rfl <;> decide

theorem Text.StopsCode.of_leaves {back : Text} (leaves : ∀ d ∈ back.head?, leavesCode d = true) :
    back.StopsCode := fun d first => .inl (leaves d first)

theorem Text.StopsCode.of_blanks_comment {blanks : Text}
    (separators : ∀ c ∈ blanks, separates c = true) (comment : Text) :
    Text.StopsCode (blanks ++ '#' :: comment) := by
  intro d first
  cases blanks with
  | nil =>
      cases first
      exact .inl rfl
  | cons e others =>
      cases first
      exact .inr (separators _ List.mem_cons_self)

/-- No blank leads out of code, so blanks end in front of what does. -/
theorem countWhile_separates_append {back : Text}
    (leaves : ∀ d ∈ back.head?, leavesCode d = true) (text : Text) :
    Text.countWhile separates (text ++ back) = Text.countWhile separates text := by
  rw [Text.countWhile, takeWhile_append_of_head, Text.countWhile]
  intro d first
  rw [Bool.eq_false_iff]
  intro separator
  have stays := leavesCode_eq_false_of_class (by decide) separator
  rw [leaves d first] at stays
  cases stays

section

variable {back : Text} (stops : back.StopsCode)

include stops

theorem Text.StopsCode.head {p : Char → Bool} (outside : stopCharacters.any p = false) :
    ∀ d ∈ back.head?, p d = false := by
  intro d first
  rw [List.any_eq_false] at outside
  exact Bool.eq_false_iff.2 (outside d (mem_stopCharacters (stops d first)))

theorem countWhile_append_of_stopsCode {p : Char → Bool}
    (outside : stopCharacters.any p = false) (text : Text) :
    Text.countWhile p (text ++ back) = Text.countWhile p text := by
  rw [Text.countWhile, takeWhile_append_of_head (stops.head outside), Text.countWhile]

/-- An exponent ends in front of a string. -/
theorem exponentLength_append_of_stopsCode (text : Text) :
    exponentLength (text ++ back) = exponentLength text := by
  have digits := countWhile_append_of_stopsCode stops (p := isDecimalDigit) (by decide)
  have marks := stops.head (p := fun d => d == 'e' || d == 'E') (by decide)
  have signs := stops.head (p := fun d => d == '-' || d == '+') (by decide)
  cases text with
  | nil =>
      cases back with
      | nil => rfl
      | cons d behind =>
          have noMark := marks d rfl
          simp only [List.nil_append, exponentLength, noMark, Bool.false_eq_true, if_false]
  | cons mark rest =>
      cases rest with
      | nil =>
          cases back with
          | nil => rfl
          | cons d behind =>
              have none := digits []
              have noSign := signs d rfl
              simp only [List.nil_append] at none
              simp only [List.cons_append, List.nil_append, exponentLength, noSign, none,
                Bool.false_eq_true, if_false]
              rfl
      | cons sign unsigned =>
          have whole := digits (sign :: unsigned)
          rw [List.cons_append] at whole
          simp only [List.cons_append, exponentLength, digits, whole]

/-- A number ends in front of a string. -/
theorem floatLength_append_of_stopsCode (text : Text) :
    floatLength (text ++ back) = floatLength text := by
  have digits := countWhile_append_of_stopsCode stops (p := isDecimalDigit) (by decide)
  have dropDigits (text : Text) : (text ++ back).dropWhile isDecimalDigit =
      text.dropWhile isDecimalDigit ++ back := dropWhile_append_of_head (stops.head (by decide))
  have takeDigits (text : Text) : (text ++ back).takeWhile isDecimalDigit =
      text.takeWhile isDecimalDigit := takeWhile_append_of_head (stops.head (by decide))
  cases behind : text.dropWhile isDecimalDigit with
  | nil =>
      have noPoint : back.head? ≠ some '.' := by
        intro point
        exact absurd (stops.head (p := (· == '.')) (by decide) '.' point) (by decide)
      rw [floatLength_of_no_point (by rwa [dropDigits, behind]),
        floatLength_of_no_point (by rw [behind]; decide)]
  | cons first fraction =>
      by_cases isPoint : first = '.'
      · subst isPoint
        have point : (text ++ back).dropWhile isDecimalDigit = '.' :: (fraction ++ back) := by
          rw [dropDigits, behind, List.cons_append]
        rw [floatLength_of_point point, floatLength_of_point behind, takeDigits, digits, digits,
          dropDigits, exponentLength_append_of_stopsCode stops]
      · have noPoint : some first ≠ some '.' := fun same => isPoint (Option.some_inj.1 same)
        rw [floatLength_of_no_point (by rwa [dropDigits, behind]),
          floatLength_of_no_point (by rwa [behind])]

/-- A token of code is the same whatever follows the code, unless blanks join blanks. -/
theorem codeStep_append_of_stopsCode {words : List Text} (isWord : ∀ word ∈ words, word.IsWord)
    (before : Option Char) {c : Char} (stays : leavesCode c = false) {rest : Text}
    (apart : separates c = true →
      Text.countWhile separates (rest ++ back) = Text.countWhile separates rest) :
    codeStep words before c (rest ++ back) = codeStep words before c rest := by
  have float := floatLength_append_of_stopsCode stops (c :: rest)
  have word : (c :: (rest ++ back)).takeWhile isWordChar = (c :: rest).takeWhile isWordChar := by
    rw [← List.cons_append, takeWhile_append_of_head (stops.head (by decide))]
  have plain : plainStep c (rest ++ back) = plainStep c rest := by
    apply plainStep_congr stays float
    · exact countWhile_append_of_stopsCode stops (by decide) rest
    · exact apart
    · exact countWhile_append_of_stopsCode stops (by decide) rest
    · exact fun _ => countWhile_append_of_stopsCode stops (by decide) rest
  have keyword : keywordAt? words before (c :: (rest ++ back)) =
      keywordAt? words before (c :: rest) := by
    rw [keywordAt?_of_isWord isWord, keywordAt?_of_isWord isWord, word]
  rw [codeStep, keyword, plain, codeStep]

end

/-- No keyword starts with a character that is no word character. -/
theorem codeStep_of_mark {words : List Text} (isWord : ∀ word ∈ words, word.IsWord)
    (before : Option Char) {c : Char} (mark : isWordChar c = false) (rest : Text) :
    codeStep words before c rest = plainStep c rest := by
  have free : keywordAt? words before (c :: rest) = none := keywordAt?_of_mark isWord before mark
  rw [codeStep, free]

/-- A token that starts with neither a quote nor a number sign stays in code. -/
theorem mode_of_stays {words : List Text} {before : Option Char} {c : Char} {rest : Text}
    {step : TokenStep} (stays : leavesCode c = false)
    (token : CodeToken words before c rest step) : step.mode = .code := by
  cases token with
  | keyword => rfl
  | plain _ token => exact (plainToken_of_stays stays token).1

/-! ## The length of a token -/

theorem countWhile_le (p : Char → Bool) (text : Text) : Text.countWhile p text ≤ text.length :=
  (List.takeWhile_prefix p).length_le

theorem exponentLength_le (text : Text) : exponentLength text ≤ text.length := by
  have digits (text : Text) := countWhile_le isDecimalDigit text
  unfold exponentLength
  split
  · split
    · split
      · rename_i sign unsigned
        split
        · have inside := digits unsigned
          split
          · exact Nat.zero_le _
          · simp only [List.length_cons]
            omega
        · have inside := digits (sign :: unsigned)
          split
          · exact Nat.zero_le _
          · rw [List.length_cons]
            omega
      · exact Nat.zero_le _
    · exact Nat.zero_le _
  · exact Nat.zero_le _

theorem floatLength_le (text : Text) : floatLength text ≤ text.length := by
  cases behind : text.dropWhile isDecimalDigit with
  | nil =>
      rw [floatLength_of_no_point (by rw [behind]; decide)]
      exact Nat.zero_le _
  | cons first fraction =>
      by_cases isPoint : first = '.'
      · subst isPoint
        have whole := congrArg List.length (text.takeWhile_append_dropWhile (p := isDecimalDigit))
        have parts :=
          congrArg List.length (fraction.takeWhile_append_dropWhile (p := isDecimalDigit))
        have exponent := exponentLength_le (fraction.dropWhile isDecimalDigit)
        rw [behind, List.length_append, List.length_cons] at whole
        rw [List.length_append] at parts
        rw [floatLength_of_point behind]
        split
        · exact Nat.zero_le _
        · simp only [Text.countWhile]
          omega
      · rw [floatLength_of_no_point (by rw [behind]; simpa using isPoint)]
        exact Nat.zero_le _

/-- A token that stays in code lies in its text. -/
theorem extra_le_of_stays {words : List Text} {before : Option Char} {c : Char} {rest : Text}
    {step : TokenStep} (stays : leavesCode c = false) (token : CodeToken words before c rest step) :
    step.extra ≤ rest.length := by
  cases token with
  | keyword => exact countWhile_le _ _
  | plain _ token =>
      cases token with
      | float extra length =>
          have whole := floatLength_le (c :: rest)
          rw [length, List.length_cons] at whole
          exact Nat.le_of_succ_le_succ whole
      | number | white | operator | identifier => exact countWhile_le _ _
      | bracket | invalid => exact Nat.zero_le _
      | quote quote mark =>
          rw [mark] at stays
          cases quote <;> cases stays
      | comment sign =>
          rw [sign] at stays
          cases stays

end KeywordBridge
