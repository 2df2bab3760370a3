import KeywordBridge.Proofs.Token.Quotes
import KeywordBridge.Proofs.Token.Steps

/-!
# Keywords among the tokens of a line

The translation looks for keywords in the bare text, and the tokens reach the same
places through numbers, operators and names. If keywords are names, the two agree
outside strings and comments: a keyword that the text has there is a token of its
own, and a keyword token is one that the text has. For in code a token is never cut
off in front of a word character that continues a word, and it never swallows the
start of a name, since inside a token a name starts only behind a word character.
-/

namespace KeywordBridge

/-! ## Tokens of strings -/

theorem openingStep_inString (quote : Quote) (rest : Text) :
    (openingStep quote rest).kind.region = .string ∧
      (openingStep quote rest).mode ≠ .blanks := by
  unfold openingStep
  split
  · exact ⟨rfl, Mode.noConfusion⟩
  · split
    · exact ⟨rfl, Mode.noConfusion⟩
    · exact ⟨rfl, Mode.noConfusion⟩

theorem inLineStep_inString (quote : Quote) (c : Char) (rest : Text) :
    (inLineStep quote c rest).kind.region = .string ∧
      (inLineStep quote c rest).mode ≠ .blanks := by
  unfold inLineStep
  split
  · exact ⟨rfl, Mode.noConfusion⟩
  · split
    · split
      · exact ⟨rfl, Mode.noConfusion⟩
      · exact ⟨rfl, Mode.noConfusion⟩
    · exact ⟨rfl, Mode.noConfusion⟩

theorem inTripleStep_inString (quote : Quote) (c : Char) (rest : Text) :
    (inTripleStep quote c rest).kind.region = .string ∧
      (inTripleStep quote c rest).mode ≠ .blanks := by
  unfold inTripleStep
  split
  · split
    · exact ⟨rfl, Mode.noConfusion⟩
    · exact ⟨rfl, Mode.noConfusion⟩
  · split
    · split
      · exact ⟨rfl, Mode.noConfusion⟩
      · exact ⟨rfl, Mode.noConfusion⟩
    · exact ⟨rfl, Mode.noConfusion⟩

/-! ## Names inside a token -/

/-- A name is a word that does not start with a decimal digit. -/
def Text.IsName (text : Text) : Prop :=
  text.IsWord ∧ text.head?.any isDecimalDigit = false

instance (text : Text) : Decidable text.IsName :=
  inferInstanceAs (Decidable (_ ∧ _))

theorem Text.IsName.exists_cons {name : Text} (isName : name.IsName) :
    ∃ c others, name = c :: others ∧ startsName c = true ∧
      ∀ d ∈ others, isWordChar d = true := by
  obtain ⟨⟨nonempty, chars⟩, noDigit⟩ := isName
  obtain ⟨c, others, rfl⟩ := List.exists_cons_of_ne_nil nonempty
  rw [List.forall_mem_cons] at chars
  rw [List.head?_cons, Option.any_some] at noDigit
  refine ⟨c, others, rfl, ?_, chars.2⟩
  rw [startsName, chars.1, noDigit]
  rfl

/-- A name starts at the second of two characters at most if the first is a word
character. -/
def Joined (first second : Char) : Prop :=
  Text.startsName second = true → isWordChar first = true

theorem isChain_joined_of_word {value : Text} (word : ∀ d ∈ value, isWordChar d = true) :
    value.IsChain Joined := by
  induction value with
  | nil => exact .nil
  | cons c others ih =>
      rw [List.isChain_cons]
      exact ⟨fun _ _ _ => word c List.mem_cons_self,
        ih fun d member => word d (List.mem_cons_of_mem c member)⟩

theorem isChain_joined_of_nameless {value : Text}
    (nameless : ∀ d ∈ value, Text.startsName d = false) : value.IsChain Joined := by
  induction value with
  | nil => exact .nil
  | cons c others ih =>
      rw [List.isChain_cons]
      refine ⟨fun d first starts => ?_,
        ih fun d member => nameless d (List.mem_cons_of_mem c member)⟩
      have here := nameless d (List.mem_cons_of_mem c (List.mem_of_mem_head? first))
      rw [here] at starts
      exact Bool.noConfusion starts

theorem startsName_of_isDecimalDigit {d : Char} (decimal : isDecimalDigit d = true) :
    Text.startsName d = false := by
  rw [Text.startsName, decimal, Bool.not_true, Bool.and_false]

theorem startsName_of_separates {d : Char} (separator : separates d = true) :
    Text.startsName d = false := by
  simp only [separates, Bool.or_eq_true, beq_iff_eq] at separator
  rcases separator with (((rfl | rfl) | rfl) | rfl) | rfl <;> decide

theorem startsName_of_isOperatorChar {d : Char} (operator : isOperatorChar d = true) :
    Text.startsName d = false := by
  have nameless : ("=><!~?:&|+-*/^%.,;@" : Text).any Text.startsName = false := by decide
  rw [List.any_eq_false] at nameless
  exact Bool.eq_false_iff.2 (nameless d (List.contains_iff_mem.1 operator))

theorem isChain_joined_of_isExponent {text : Text} (isExponent : IsExponent text) :
    text.IsChain Joined := by
  have markWord {mark : Char} (isMark : mark = 'e' ∨ mark = 'E') : isWordChar mark = true := by
    rcases isMark with rfl | rfl <;> decide
  cases isExponent with
  | absent => exact .nil
  | unsigned mark digits isMark _ decimal =>
      apply isChain_joined_of_word
      rw [List.forall_mem_cons]
      exact ⟨markWord isMark, fun d member => isWordChar_of_isDecimalDigit (decimal d member)⟩
  | signed mark sign digits isMark isSign _ decimal =>
      rw [List.isChain_cons]
      refine ⟨fun _ _ _ => markWord isMark, isChain_joined_of_nameless ?_⟩
      rw [List.forall_mem_cons]
      refine ⟨?_, fun d member => startsName_of_isDecimalDigit (decimal d member)⟩
      rcases isSign with rfl | rfl <;> decide

theorem isChain_joined_of_isFloat {text : Text} (isFloat : IsFloat text) :
    text.IsChain Joined := by
  obtain ⟨whole, fraction, exponent, wholeDecimal, nonempty, decimal, isExponent⟩ := isFloat
  have digits {part : Text} (decimal : ∀ d ∈ part, isDecimalDigit d = true) :
      ∀ d ∈ part, isWordChar d = true := fun d member =>
    isWordChar_of_isDecimalDigit (decimal d member)
  have behindPoint : (fraction ++ exponent).IsChain Joined := by
    refine (isChain_joined_of_word (digits decimal)).append
      (isChain_joined_of_isExponent isExponent) ?_
    intro x last _ _ _
    exact digits decimal x (List.mem_of_mem_getLast? last)
  refine (isChain_joined_of_word (digits wholeDecimal)).append ?_ ?_
  · rw [List.isChain_cons]
    refine ⟨fun d first starts => ?_, behindPoint⟩
    rw [List.head?_append_of_ne_nil _ nonempty] at first
    have digit := decimal d (List.mem_of_mem_head? first)
    rw [startsName_of_isDecimalDigit digit] at starts
    exact Bool.noConfusion starts
  · intro x _ d first starts
    cases first
    exact absurd starts (by decide)

/-- A run of a class that holds no character with which a name starts. -/
theorem isChain_joined_of_run {p : Char → Bool}
    (nameless : ∀ d, p d = true → Text.startsName d = false) {c : Char} (first : p c = true)
    (rest : Text) : (c :: rest.take (Text.countWhile p rest)).IsChain Joined := by
  apply isChain_joined_of_nameless
  rw [take_countWhile, List.forall_mem_cons]
  exact ⟨nameless c first, fun d member => nameless d (List.mem_takeWhile_imp member)⟩

/-- Inside a token in code that is no keyword, names start only behind word
characters. -/
theorem isChain_joined_of_plainToken {c : Char} {rest : Text} {step : TokenStep}
    (token : PlainToken c rest step) (code : step.kind.region = .code) :
    (c :: rest.take step.extra).IsChain Joined := by
  cases token with
  | float extra length => exact isChain_joined_of_isFloat (isFloat_of_length length)
  | number digit =>
      exact isChain_joined_of_run (fun _ => startsName_of_isDecimalDigit) digit rest
  | quote quote mark =>
      rw [(openingStep_inString quote rest).1] at code
      exact Region.noConfusion code
  | white separator =>
      exact isChain_joined_of_run (fun _ => startsName_of_separates) separator rest
  | comment sign length ends => exact Region.noConfusion code
  | bracket bracket => exact .singleton c
  | operator operator =>
      exact isChain_joined_of_run (fun _ => startsName_of_isOperatorChar) operator rest
  | identifier start =>
      rw [Text.startsName, Bool.and_eq_true] at start
      apply isChain_joined_of_word
      rw [take_countWhile, List.forall_mem_cons]
      exact ⟨start.1, fun d member => List.mem_takeWhile_imp member⟩
  | invalid => exact .singleton c

theorem kind_ne_keyword_of_plainToken {c : Char} {rest : Text} {step : TokenStep}
    (token : PlainToken c rest step) : step.kind ≠ .keyword := by
  cases token with
  | quote quote mark =>
      have region := (openingStep_inString quote rest).1
      intro keyword
      rw [keyword] at region
      exact Region.noConfusion region
  | _ => simp

theorem mode_ne_blanks_of_codeToken {words : List Text} {before : Option Char} {c : Char}
    {rest : Text} {step : TokenStep} (token : CodeToken words before c rest step) :
    step.mode ≠ .blanks := by
  cases token with
  | keyword => exact Mode.noConfusion
  | plain free token =>
      cases token with
      | quote quote mark => exact (openingStep_inString quote rest).2
      | _ => exact Mode.noConfusion

/-! ## One lexeme -/

/-- How the keywords of a text meet a lexeme between the character in front of it
and the text behind it. -/
inductive LexemeKeywords (words : List Text) (before : Option Char) (lexeme : Lexeme)
    (rest : Text) : Prop
  /-- The lexeme is a keyword of the text. -/
  | keyword (kind : lexeme.kind = .keyword) (listed : lexeme.value ∈ words)
      (start : Text.isWordSide before = false) (stop : Text.isWordSide rest.head? = false)
  /-- The lexeme is code in which no keyword of the text starts. -/
  | free (kind : lexeme.kind ≠ .keyword) (code : lexeme.kind.region = .code)
      (absent : ∀ head c tail, lexeme.value = head ++ c :: tail →
        keywordAt? words (head.getLast?.or before) (c :: tail ++ rest) = none)
  /-- The lexeme belongs to a string or a comment. -/
  | apart (outside : lexeme.kind.region ≠ .code)

section

variable {words : List Text} (isName : ∀ word ∈ words, word.IsName)

include isName

theorem isWord_of_isName : ∀ word ∈ words, word.IsWord :=
  fun word listed => (isName word listed).1

/-- No keyword stands at a character with which no name starts. -/
theorem keywordAt?_of_nameless (before : Option Char) {c : Char} (rest : Text)
    (nameless : Text.startsName c = false) : keywordAt? words before (c :: rest) = none := by
  rw [keywordAt?_of_isWord (isWord_of_isName isName), if_neg]
  rintro ⟨-, listed⟩
  obtain ⟨isWord, noDigit⟩ := isName _ listed
  by_cases word : isWordChar c = true
  · rw [List.takeWhile_cons_of_pos word, List.head?_cons, Option.any_some] at noDigit
    rw [Text.startsName, word, noDigit] at nameless
    exact Bool.noConfusion nameless
  · rw [List.takeWhile_cons_of_neg word] at isWord
    exact isWord.1 rfl

/-- Behind its first character, no keyword starts in a token inside which names
start only behind word characters. -/
theorem keywordAt?_inside {value : Text} (joined : value.IsChain Joined) {head : Text}
    {c : Char} {tail : Text} (split : value = head ++ c :: tail) (inside : head ≠ [])
    (before : Option Char) (rest : Text) :
    keywordAt? words (head.getLast?.or before) (c :: tail ++ rest) = none := by
  obtain ⟨init, last, rfl⟩ := (List.eq_nil_or_concat' head).resolve_left inside
  rw [split, List.append_assoc, List.singleton_append, List.isChain_append_cons_cons] at joined
  rw [List.getLast?_concat, Option.some_or, List.cons_append]
  by_cases word : isWordChar last = true
  · exact keywordAt?_behind_word (isWord_of_isName isName) _ word
  · apply keywordAt?_of_nameless isName
    rw [Bool.eq_false_iff]
    intro starts
    exact word (joined.2.1 starts)

theorem lexemeKeywords_codeToken {before : Option Char} {c : Char} {rest : Text}
    {step : TokenStep} (token : CodeToken words before c rest step) :
    LexemeKeywords words before ⟨step.kind, c :: rest.take step.extra⟩ (rest.drop step.extra) := by
  cases token with
  | keyword start first listed =>
      have stop := Text.isWordSide_head?_dropWhile rest
      rw [← drop_countWhile] at stop
      rw [← take_countWhile] at listed
      exact .keyword rfl listed start stop
  | plain free token =>
      by_cases code : step.kind.region = .code
      · refine .free (kind_ne_keyword_of_plainToken token) code fun head d tail split => ?_
        by_cases inside : head = []
        · subst inside
          rw [List.nil_append] at split
          rw [← split, List.cons_append, List.take_append_drop]
          exact free
        · exact keywordAt?_inside isName (isChain_joined_of_plainToken token code) split inside
            before _
      · exact .apart code

/-- In every mode that a line reaches from code, a lexeme is a keyword of the text,
is free of them, or belongs to a string or a comment. -/
theorem lexemeKeywords_step {mode : Mode} (known : mode ≠ .blanks) (before : Option Char)
    (c : Char) (rest : Text) :
    (mode.step words before c rest).mode ≠ .blanks ∧
      LexemeKeywords words before
        ⟨(mode.step words before c rest).kind,
          c :: rest.take (mode.step words before c rest).extra⟩
        (rest.drop (mode.step words before c rest).extra) := by
  cases mode with
  | code =>
      have token := codeToken_codeStep (isWord_of_isName isName) before c rest
      exact ⟨mode_ne_blanks_of_codeToken token, lexemeKeywords_codeToken isName token⟩
  | blanks => exact absurd rfl known
  | inLine quote =>
      obtain ⟨inString, goesOn⟩ := inLineStep_inString quote c rest
      refine ⟨goesOn, .apart ?_⟩
      rw [Mode.step, inString]
      exact Region.noConfusion
  | inTriple quote =>
      obtain ⟨inString, goesOn⟩ := inTripleStep_inString quote c rest
      refine ⟨goesOn, .apart ?_⟩
      rw [Mode.step, inString]
      exact Region.noConfusion

end

/-! ## A line -/

/-- How the keywords of a text meet its lexemes, behind the character `before`. -/
inductive LineKeywords (words : List Text) : Option Char → List Lexeme → Prop
  | nil (before : Option Char) : LineKeywords words before []
  | cons {before : Option Char} {lexeme : Lexeme} {others : List Lexeme}
      (first : LexemeKeywords words before lexeme (Lexeme.source others))
      (behind : LineKeywords words (lexeme.value.getLast?.or before) others) :
      LineKeywords words before (lexeme :: others)

theorem lineKeywords_scanFrom {words : List Text} (isName : ∀ word ∈ words, word.IsName)
    {mode : Mode} (known : mode ≠ .blanks) (before : Option Char) (text : Text) :
    LineKeywords words before (scanFrom words mode before text).1 := by
  fun_induction scanFrom words mode before text with
  | case1 mode before => exact .nil before
  | case2 mode before c rest step value others final scanned ih =>
      obtain ⟨goesOn, first⟩ := lexemeKeywords_step isName known before c rest
      have behind := ih goesOn
      have source := source_scanFrom words step.mode value.getLast? (rest.drop step.extra)
      have last : value.getLast?.or before = value.getLast? := by
        simp [value, List.getLast?_cons]
      rw [scanned] at behind source
      rw [← source] at first
      rw [← last] at behind
      exact .cons first behind

end KeywordBridge
