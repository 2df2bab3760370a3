import KeywordBridge.Proofs.Token.Delimiters

/-!
# Names among the tokens of a line

A name takes all word characters behind its first, so a word that ends with a name
token ends there. In front of it the word may go on in one case only: the digits of a
number are word characters, and where a number ends, a name may follow without a mark
between them.
-/

namespace KeywordBridge

/-! ## One step of a scan -/

section

variable {words : List Text} (isWord : ∀ word ∈ words, word.IsWord) {mode : Mode}
  (known : mode ≠ .blanks)

include isWord known

/-- No token of a line leads where only blanks are expected. -/
theorem mode_step_ne_blanks (before : Option Char) (c : Char) (rest : Text) :
    (mode.step words before c rest).mode ≠ .blanks := by
  cases mode with
  | code => exact mode_ne_blanks_of_codeToken (codeToken_codeStep isWord before c rest)
  | blanks => exact absurd rfl known
  | inLine quote => exact (inLineStep_inString quote c rest).2
  | inTriple quote => exact (inTripleStep_inString quote c rest).2

/-- What the scan of a text did at one of its lexemes, behind those in front of it. -/
theorem exists_step_of_split {before : Option Char} {text : Text} {earlier : List Lexeme}
    {lexeme : Lexeme} {later : List Lexeme}
    (split : (scanFrom words mode before text).1 = earlier ++ lexeme :: later) :
    ∃ (here : Mode) (c : Char) (rest : Text), here ≠ .blanks ∧
      text = Lexeme.source earlier ++ c :: rest ∧
      let step := here.step words ((Lexeme.source earlier).getLast?.or before) c rest
      lexeme = ⟨step.kind, c :: rest.take step.extra⟩ ∧
        Lexeme.source later = rest.drop step.extra := by
  fun_induction scanFrom words mode before text generalizing earlier with
  | case1 => exact absurd split.symm (List.append_ne_nil_of_right_ne_nil _ (List.cons_ne_nil _ _))
  | case2 mode before c rest step value others final =>
      rename_i scanned ih
      have source := source_scanFrom words step.mode value.getLast? (rest.drop step.extra)
      rw [scanned] at ih source
      cases earlier with
      | nil =>
          obtain ⟨rfl, rfl⟩ := List.cons.inj split
          exact ⟨mode, c, rest, known, rfl, rfl, source⟩
      | cons first earlier =>
          obtain ⟨rfl, behind⟩ := List.cons.inj split
          obtain ⟨here, d, tail, knownHere, text, isLexeme⟩ :=
            ih (mode_step_ne_blanks isWord known before c rest) behind
          have last : (Lexeme.source earlier).getLast?.or value.getLast? =
              (value ++ Lexeme.source earlier).getLast?.or before := by
            rw [List.getLast?_append, Option.or_assoc, List.getLast?_cons, Option.some_or]
          rw [last] at isLexeme
          refine ⟨here, d, tail, knownHere, ?_, isLexeme⟩
          rw [Lexeme.source_cons, List.append_assoc, ← text, List.cons_append,
            List.take_append_drop]

/-- A name token is read in code where no keyword stands, and takes all word characters
that follow. -/
theorem step_of_identifier {before : Option Char} {c : Char} {rest : Text}
    (kind : (mode.step words before c rest).kind = .identifier) :
    mode = .code ∧ Text.startsName c = true ∧ keywordAt? words before (c :: rest) = none ∧
      mode.step words before c rest =
        ⟨.identifier, Text.countWhile isWordChar rest, .code⟩ := by
  cases mode with
  | code =>
      have token := codeToken_codeStep isWord before c rest
      change (codeStep words before c rest).kind = .identifier at kind
      change _ ∧ _ ∧ _ ∧ codeStep words before c rest = _
      generalize codeStep words before c rest = step at token kind ⊢
      cases token with
      | keyword => cases kind
      | plain free token =>
          cases token with
          | identifier start => exact ⟨rfl, start, free, rfl⟩
          | quote quote mark =>
              have string := (openingStep_inString quote rest).1
              rw [kind] at string
              cases string
          | _ => cases kind
  | blanks => exact absurd rfl known
  | inLine quote =>
      have string := (inLineStep_inString quote c rest).1
      change (inLineStep quote c rest).kind = .identifier at kind
      rw [kind] at string
      cases string
  | inTriple quote =>
      have string := (inTripleStep_inString quote c rest).1
      change (inTripleStep quote c rest).kind = .identifier at kind
      rw [kind] at string
      cases string

/-- A name token is a name that stops where the token ends. -/
theorem isName_of_identifier {before : Option Char} {text : Text} {earlier : List Lexeme}
    {word : Text} {later : List Lexeme}
    (split : (scanFrom words mode before text).1 = earlier ++ ⟨.identifier, word⟩ :: later) :
    word.IsName ∧ Text.isWordSide (Lexeme.source later).head? = false := by
  obtain ⟨here, c, rest, knownHere, -, isLexeme, source⟩ :=
    exists_step_of_split isWord known split
  have kind := (congrArg Lexeme.kind isLexeme).symm
  obtain ⟨-, starts, -, step⟩ := step_of_identifier isWord knownHere kind
  have value := congrArg Lexeme.value isLexeme
  simp only [step, take_countWhile] at value
  rw [step, drop_countWhile] at source
  rw [value, source]
  refine ⟨⟨Text.isWord_takeWhile (isWordChar_of_startsName starts), ?_⟩,
    Text.isWordSide_head?_dropWhile rest⟩
  rw [Text.startsName, Bool.and_eq_true, Bool.not_eq_true'] at starts
  exact starts.2

end

/-! ## Where numbers end -/

theorem getLast?_any_append {p : Char → Bool} (front : Text) {text : Text} (nonempty : text ≠ [])
    (all : ∀ d ∈ text, p d = true) : (front ++ text).getLast?.any p = true := by
  rw [List.getLast?_append_of_ne_nil _ nonempty, List.getLast?_eq_some_getLast nonempty,
    Option.any_some]
  exact all _ (List.getLast_mem nonempty)

/-- A number with a fraction ends with a digit. -/
theorem IsFloat.getLast?_any {text : Text} (isFloat : IsFloat text) :
    text.getLast?.any isDecimalDigit = true := by
  obtain ⟨whole, fraction, exponent, -, nonempty, decimal, isExponent⟩ := isFloat
  cases isExponent with
  | absent => simpa using getLast?_any_append (whole ++ ['.']) nonempty decimal
  | unsigned mark digits isMark nonempty decimal =>
      simpa using getLast?_any_append (whole ++ '.' :: (fraction ++ [mark])) nonempty decimal
  | signed mark sign digits isMark isSign nonempty decimal =>
      simpa using getLast?_any_append (whole ++ '.' :: (fraction ++ [mark, sign])) nonempty decimal

/-- A run of characters of a class that holds no word character does not end a word. -/
theorem isWordSide_getLast?_of_class {p : Char → Bool}
    (outside : ∀ d, p d = true → isWordChar d = false) {text : Text}
    (all : ∀ d ∈ text, p d = true) : Text.isWordSide text.getLast? = false := by
  cases last : text.getLast? with
  | none => rfl
  | some d => exact outside d (all d (List.mem_of_mem_getLast? last))

theorem isWordChar_of_separates {d : Char} (separator : separates d = true) :
    isWordChar d = false := by
  simp only [separates, Bool.or_eq_true, beq_iff_eq] at separator
  rcases separator with (((rfl | rfl) | rfl) | rfl) | rfl <;> decide

theorem isWordChar_of_isOperatorChar {d : Char} (operator : isOperatorChar d = true) :
    isWordChar d = false := by
  have wordless : ("=><!~?:&|+-*/^%.,;@" : Text).any isWordChar = false := by decide
  rw [List.any_eq_false] at wordless
  exact Bool.eq_false_iff.2 (wordless d (List.contains_iff_mem.1 operator))

theorem isWordChar_of_isBracket {d : Char} (bracket : isBracket d = true) :
    isWordChar d = false := by
  have wordless : ("\x7b\x7d()[]" : Text).any isWordChar = false := by decide
  rw [List.any_eq_false] at wordless
  exact Bool.eq_false_iff.2 (wordless d (List.contains_iff_mem.1 bracket))

/-- Is a text that goes on with a word character behind another one cut behind a decimal
digit? -/
def CutsBehindDigit (front back : Text) : Prop :=
  Text.isWordSide front.getLast? = true → Text.isWordSide back.head? = true →
    front.getLast?.any isDecimalDigit = true

/-- Where a token of code ends inside a word, it ends with a digit. -/
theorem cutsBehindDigit_plainToken {c : Char} {rest : Text} {step : TokenStep}
    (oneLine : '\n' ∉ rest) (token : PlainToken c rest step) (code : step.mode = .code) :
    CutsBehindDigit (c :: rest.take step.extra) (rest.drop step.extra) := by
  have atEnd {value : Text} (ends : rest.drop step.extra = []) :
      CutsBehindDigit value (rest.drop step.extra) := by
    intro _ goesOn
    rw [ends] at goesOn
    cases goesOn
  have run {p : Char → Bool} (outside : ∀ d, p d = true → isWordChar d = false)
      (first : p c = true) {back : Text} :
      CutsBehindDigit (c :: rest.take (Text.countWhile p rest)) back := by
    intro word _
    have all : ∀ d ∈ c :: rest.take (Text.countWhile p rest), p d = true := by
      rw [List.forall_mem_cons, take_countWhile]
      exact ⟨first, fun d member => List.mem_takeWhile_imp member⟩
    rw [isWordSide_getLast?_of_class outside all] at word
    cases word
  have single (mark : isWordChar c = false) {back : Text} : CutsBehindDigit [c] back := by
    intro word _
    exact absurd word (Bool.eq_false_iff.1 mark)
  cases token with
  | float extra length => exact fun _ _ => (isFloat_of_length length).getLast?_any
  | number digit =>
      intro _ _
      apply getLast?_any_append [] (List.cons_ne_nil _ _)
      rw [List.forall_mem_cons, take_countWhile]
      exact ⟨digit, fun d member => List.mem_takeWhile_imp member⟩
  | quote quote mark =>
      apply atEnd
      unfold openingStep at code ⊢
      split at code
      · cases code
      · split at code
        · rename_i noTriple opened
          rw [if_neg noTriple, if_pos opened]
          exact List.drop_length
        · cases code
  | white separator => exact run (fun _ => isWordChar_of_separates) separator
  | comment sign length ends =>
      apply atEnd
      rw [commentLength?_of_oneLine oneLine] at ends
      cases ends
      exact List.drop_length
  | bracket bracket => exact single (isWordChar_of_isBracket bracket)
  | operator operator => exact run (fun _ => isWordChar_of_isOperatorChar) operator
  | identifier start =>
      intro _ goesOn
      rw [drop_countWhile, Text.isWordSide_head?_dropWhile] at goesOn
      cases goesOn
  | invalid noQuote noComment noDigit noSeparator noBracket noOperator noName =>
      apply single
      rwa [Text.startsName, noDigit, Bool.not_false, Bool.and_true] at noName

section

variable {words : List Text} (isWord : ∀ word ∈ words, word.IsWord)

include isWord

theorem cutsBehindDigit_step {mode : Mode} (known : mode ≠ .blanks) (before : Option Char)
    {c : Char} {rest : Text} (oneLine : '\n' ∉ rest)
    (code : (mode.step words before c rest).mode = .code) :
    CutsBehindDigit (c :: rest.take (mode.step words before c rest).extra)
      (rest.drop (mode.step words before c rest).extra) := by
  have ofString (string : mode.quote?.isSome = true)
      (region : StepRegion c rest (mode.step words before c rest) mode) :
      CutsBehindDigit (c :: rest.take (mode.step words before c rest).extra)
        (rest.drop (mode.step words before c rest).extra) := by
    intro word goesOn
    generalize mode.step words before c rest = step at *
    cases region with
    | code => cases string
    | opens => cases string
    | inside _ _ open' =>
        rw [code] at open'
        cases open'
    | closes _ _ _ ends =>
        rcases ends with mark | ends
        · rw [mark] at word
          cases word
        · rw [ends] at goesOn
          cases goesOn
  cases mode with
  | code =>
      have token := codeToken_codeStep isWord before c rest
      change (codeStep words before c rest).mode = .code at code
      change CutsBehindDigit (c :: rest.take (codeStep words before c rest).extra)
        (rest.drop (codeStep words before c rest).extra)
      generalize codeStep words before c rest = step at token code ⊢
      cases token with
      | keyword =>
          intro _ goesOn
          rw [drop_countWhile, Text.isWordSide_head?_dropWhile] at goesOn
          cases goesOn
      | plain _ token => exact cutsBehindDigit_plainToken oneLine token code
  | blanks => exact absurd rfl known
  | inLine quote => exact ofString rfl (stepRegion_inLineStep c rest)
  | inTriple quote => exact ofString rfl (stepRegion_inTripleStep c rest)

/-- Where a name token continues a word, it follows a decimal digit. -/
theorem cutsBehindDigit_of_identifier {mode : Mode} (known : mode ≠ .blanks) {before : Option Char}
    {text : Text} (oneLine : '\n' ∉ text)
    (start : Text.isWordSide before = true → Text.isWordSide text.head? = true → mode = .code →
      before.any isDecimalDigit = true)
    {earlier : List Lexeme} {word : Text} {later : List Lexeme}
    (split : (scanFrom words mode before text).1 = earlier ++ ⟨.identifier, word⟩ :: later)
    (inside : Text.isWordSide ((Lexeme.source earlier).getLast?.or before) = true) :
    ((Lexeme.source earlier).getLast?.or before).any isDecimalDigit = true := by
  fun_induction scanFrom words mode before text generalizing earlier with
  | case1 => exact absurd split.symm (List.append_ne_nil_of_right_ne_nil _ (List.cons_ne_nil _ _))
  | case2 mode before c rest step value others final =>
      rename_i scanned ih
      rw [scanned] at ih
      rw [List.mem_cons, not_or] at oneLine
      cases earlier with
      | nil =>
          have kind : step.kind = .identifier := congrArg Lexeme.kind (List.cons.inj split).1
          obtain ⟨code, starts, -⟩ := step_of_identifier isWord known kind
          exact start inside (isWordChar_of_startsName starts) code
      | cons first earlier =>
          obtain ⟨rfl, behind⟩ := List.cons.inj split
          have last : (Lexeme.source (⟨step.kind, value⟩ :: earlier)).getLast?.or before =
              (Lexeme.source earlier).getLast?.or value.getLast? := by
            rw [Lexeme.source_cons, List.getLast?_append, Option.or_assoc, List.getLast?_cons,
              Option.some_or]
          rw [last] at inside ⊢
          apply ih (mode_step_ne_blanks isWord known before c rest)
            (fun member => oneLine.2 (List.mem_of_mem_drop member)) _ behind inside
          intro word goesOn code
          exact cutsBehindDigit_step isWord known before oneLine.2 code word goesOn

end

end KeywordBridge
