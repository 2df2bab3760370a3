import KeywordBridge.Proofs.Keyword.WordKeywords
import KeywordBridge.Proofs.Text.CharacterClass
import KeywordBridge.Token.Scan
import Mathlib.Data.List.Chain
import Mathlib.Data.List.TakeWhile

/-!
# What a token in code is made of

At every position in code one of a few rules gives the next token. Each rule is
listed once with what it asks of the position, so that a property of all tokens
is proved rule by rule. Outside strings and comments a token holds no quote and no
number sign, and a name starts inside a token only behind a word character: the
one token that joins word characters with others, a number with a fraction, goes
on with a digit behind its point and behind the sign of its exponent.
-/

namespace KeywordBridge

/-! ## Numbers with a fraction -/

/-- Is the text an exponent, or nothing? -/
inductive IsExponent : Text → Prop
  | absent : IsExponent []
  | unsigned (mark : Char) (digits : Text) (isMark : mark = 'e' ∨ mark = 'E')
      (nonempty : digits ≠ []) (decimal : ∀ d ∈ digits, isDecimalDigit d = true) :
      IsExponent (mark :: digits)
  | signed (mark sign : Char) (digits : Text) (isMark : mark = 'e' ∨ mark = 'E')
      (isSign : sign = '-' ∨ sign = '+') (nonempty : digits ≠ [])
      (decimal : ∀ d ∈ digits, isDecimalDigit d = true) : IsExponent (mark :: sign :: digits)

/-- Is the text a number with a fraction? -/
inductive IsFloat : Text → Prop
  | mk (whole fraction exponent : Text) (wholeDecimal : ∀ d ∈ whole, isDecimalDigit d = true)
      (nonempty : fraction ≠ []) (decimal : ∀ d ∈ fraction, isDecimalDigit d = true)
      (isExponent : IsExponent exponent) : IsFloat (whole ++ '.' :: (fraction ++ exponent))

theorem take_countWhile (p : Char → Bool) (text : Text) :
    text.take (Text.countWhile p text) = text.takeWhile p :=
  (List.prefix_iff_eq_take.1 (List.takeWhile_prefix p)).symm

theorem drop_countWhile (p : Char → Bool) (text : Text) :
    text.drop (Text.countWhile p text) = text.dropWhile p := by
  apply (List.append_right_inj (text.takeWhile p)).1
  rw [List.takeWhile_append_dropWhile, ← take_countWhile, List.take_append_drop]

theorem takeWhile_ne_nil_of_count {p : Char → Bool} {text : Text}
    (found : Text.countWhile p text ≠ 0) : text.takeWhile p ≠ [] := fun empty =>
  found (by rw [Text.countWhile, empty, List.length_nil])

theorem isExponent_take (text : Text) : IsExponent (text.take (exponentLength text)) := by
  unfold exponentLength
  split
  · rename_i mark rest
    split
    · rename_i isMark
      rw [Bool.or_eq_true, beq_iff_eq, beq_iff_eq] at isMark
      split
      · rename_i sign unsigned
        split
        · rename_i isSign
          rw [Bool.or_eq_true, beq_iff_eq, beq_iff_eq] at isSign
          split
          · exact .absent
          · rename_i found
            rw [List.take_succ_cons, List.take_succ_cons, take_countWhile]
            exact .signed mark sign _ isMark isSign (takeWhile_ne_nil_of_count found)
              fun d member => List.mem_takeWhile_imp member
        · split
          · exact .absent
          · rename_i found
            rw [List.take_succ_cons, take_countWhile]
            exact .unsigned mark _ isMark (takeWhile_ne_nil_of_count found)
              fun d member => List.mem_takeWhile_imp member
      · exact .absent
    · exact .absent
  · exact .absent

theorem isFloat_take {text : Text} (found : floatLength text ≠ 0) :
    IsFloat (text.take (floatLength text)) := by
  have digits (part : Text) :
      ∀ d ∈ part.takeWhile isDecimalDigit, isDecimalDigit d = true :=
    fun _ member => List.mem_takeWhile_imp member
  revert found
  simp only [floatLength]
  split
  · rename_i rest behindWhole
    split
    · exact fun found => absurd rfl found
    · rename_i nonempty
      intro _
      rw [Nat.add_assoc, Nat.add_assoc, Nat.add_comm 1, List.take_add, behindWhole,
        List.take_succ_cons, List.take_add, take_countWhile, take_countWhile]
      exact .mk _ _ _ (digits text) (takeWhile_ne_nil_of_count nonempty) (digits rest)
        (isExponent_take _)
  · exact fun found => absurd rfl found

theorem isFloat_of_length {c : Char} {rest : Text} {extra : Nat}
    (length : floatLength (c :: rest) = extra + 1) : IsFloat (c :: rest.take extra) := by
  have found : floatLength (c :: rest) ≠ 0 := by
    rw [length]
    exact Nat.succ_ne_zero extra
  have isFloat := isFloat_take found
  rw [length, List.take_succ_cons] at isFloat
  exact isFloat

/-- A number with a fraction is made of digits, its point and the marks of its exponent. -/
theorem IsFloat.digit_or_mark {text : Text} (isFloat : IsFloat text) :
    ∀ d ∈ text, isDecimalDigit d = true ∨ d ∈ (".eE-+" : Text) := by
  have isMark {mark : Char} (found : mark = 'e' ∨ mark = 'E') : mark ∈ (".eE-+" : Text) := by
    rcases found with rfl | rfl <;> decide
  have isSign {sign : Char} (found : sign = '-' ∨ sign = '+') : sign ∈ (".eE-+" : Text) := by
    rcases found with rfl | rfl <;> decide
  have ofExponent {exponent : Text} (isExponent : IsExponent exponent) :
      ∀ d ∈ exponent, isDecimalDigit d = true ∨ d ∈ (".eE-+" : Text) := by
    cases isExponent with
    | absent => exact fun d member => nomatch member
    | unsigned mark digits found _ decimal =>
        exact List.forall_mem_cons.2 ⟨.inr (isMark found), fun d member => .inl (decimal d member)⟩
    | signed mark sign digits found foundSign _ decimal =>
        exact List.forall_mem_cons.2 ⟨.inr (isMark found), List.forall_mem_cons.2
          ⟨.inr (isSign foundSign), fun d member => .inl (decimal d member)⟩⟩
  obtain ⟨whole, fraction, exponent, wholeDecimal, -, decimal, isExponent⟩ := isFloat
  intro d member
  rw [List.mem_append, List.mem_cons, List.mem_append] at member
  rcases member with inWhole | rfl | inFraction | inExponent
  · exact .inl (wholeDecimal d inWhole)
  · exact .inr (by decide)
  · exact .inl (decimal d inFraction)
  · exact ofExponent isExponent d inExponent

/-! ## The rules for code -/

/-- What may stand in code where no keyword stands, with the token it gives. -/
inductive PlainToken (c : Char) (rest : Text) : TokenStep → Prop
  | float (extra : Nat) (length : floatLength (c :: rest) = extra + 1) :
      PlainToken c rest ⟨.float, extra, .code⟩
  | number (digit : isDecimalDigit c = true) :
      PlainToken c rest ⟨.number, Text.countWhile isDecimalDigit rest, .code⟩
  | quote (quote : Quote) (mark : c = quote.mark) : PlainToken c rest (openingStep quote rest)
  | white (separator : separates c = true) :
      PlainToken c rest ⟨.white, Text.countWhile separates rest, .code⟩
  | comment (sign : c = '#') (length : Nat) (ends : commentLength? rest = some length) :
      PlainToken c rest ⟨.comment, length, .code⟩
  | bracket (bracket : isBracket c = true) : PlainToken c rest ⟨.bracket, 0, .code⟩
  | operator (operator : isOperatorChar c = true) :
      PlainToken c rest ⟨.operator, Text.countWhile isOperatorChar rest, .code⟩
  | identifier (start : Text.startsName c = true) :
      PlainToken c rest ⟨.identifier, Text.countWhile isWordChar rest, .code⟩
  | invalid (noQuote : ∀ quote : Quote, c ≠ quote.mark)
      (noComment : c = '#' → commentLength? rest = none)
      (noDigit : isDecimalDigit c = false) (noSeparator : separates c = false)
      (noBracket : isBracket c = false) (noOperator : isOperatorChar c = false)
      (noName : Text.startsName c = false) : PlainToken c rest ⟨.invalid, 0, .code⟩

theorem blankStep?_eq_none {mode : Mode} {c : Char} {rest : Text}
    (found : blankStep? mode c rest = none) :
    separates c = false ∧ (c = '#' → commentLength? rest = none) := by
  unfold blankStep? at found
  split at found
  · simp at found
  · rename_i noSeparator
    refine ⟨Bool.eq_false_iff.2 noSeparator, fun sign => ?_⟩
    rw [if_pos (beq_iff_eq.2 sign)] at found
    exact Option.map_eq_none_iff.1 found

theorem plainToken_plainStep (c : Char) (rest : Text) :
    PlainToken c rest (plainStep c rest) := by
  unfold plainStep
  split
  · exact .float _ ‹_›
  · split
    · exact .number ‹_›
    · split
      · rename_i mark
        exact .quote .double (beq_iff_eq.1 mark)
      · split
        · rename_i mark
          exact .quote .single (beq_iff_eq.1 mark)
        · split
          · rename_i step found
            unfold blankStep? at found
            split at found
            · cases found
              exact .white ‹_›
            · split at found
              · rename_i sign
                obtain ⟨length, ends, rfl⟩ := Option.map_eq_some_iff.1 found
                exact .comment (beq_iff_eq.1 sign) length ends
              · simp at found
          · rename_i noDigit noDouble noSingle _ noBlank
            obtain ⟨noSeparator, noComment⟩ := blankStep?_eq_none noBlank
            split
            · exact .bracket ‹_›
            · split
              · exact .operator ‹_›
              · split
                · exact .identifier ‹_›
                · rename_i noBracket noOperator noName
                  refine .invalid ?_ noComment (Bool.eq_false_iff.2 noDigit) noSeparator
                    (Bool.eq_false_iff.2 noBracket) (Bool.eq_false_iff.2 noOperator)
                    (Bool.eq_false_iff.2 noName)
                  intro quote mark
                  cases quote with
                  | double => exact noDouble (beq_iff_eq.2 mark)
                  | single => exact noSingle (beq_iff_eq.2 mark)

/-- What may stand in code, if the keywords are words. -/
inductive CodeToken (words : List Text) (before : Option Char) (c : Char) (rest : Text) :
    TokenStep → Prop
  | keyword (start : Text.isWordSide before = false) (first : isWordChar c = true)
      (listed : c :: rest.takeWhile isWordChar ∈ words) :
      CodeToken words before c rest ⟨.keyword, Text.countWhile isWordChar rest, .code⟩
  | plain {step : TokenStep} (free : keywordAt? words before (c :: rest) = none)
      (token : PlainToken c rest step) : CodeToken words before c rest step

theorem codeToken_codeStep {words : List Text} (isWord : ∀ word ∈ words, word.IsWord)
    (before : Option Char) (c : Char) (rest : Text) :
    CodeToken words before c rest (codeStep words before c rest) := by
  have found := keywordAt?_of_isWord isWord before (c :: rest)
  split at found
  · rename_i listed
    obtain ⟨start, listed⟩ := listed
    by_cases first : isWordChar c = true
    · rw [List.takeWhile_cons_of_pos first] at found listed
      rw [codeStep, found]
      exact .keyword start first listed
    · rw [List.takeWhile_cons_of_neg first] at listed
      exact absurd rfl (isWord [] listed).1
  · rw [codeStep, found]
    exact .plain found (plainToken_plainStep c rest)

end KeywordBridge
