import KeywordBridge.Proofs.Token.KeywordTokens
import KeywordBridge.Proofs.Token.QuoteAgreement

/-!
# The rules at single characters

Which rule gives the next token is settled by its first character wherever this is a
quote, a backslash, a number sign or the start of a name, and in a string everywhere.
None of the first three is a word character.
-/

namespace KeywordBridge

/-! ## Marks -/

/-- A quote is no word character. -/
theorem Quote.isWordChar_mark (quote : Quote) : isWordChar quote.mark = false := by
  cases quote <;> decide

theorem isWordChar_backslash : isWordChar '\\' = false := by
  decide

/-- Word characters are plain in a string. -/
theorem isPlainIn_of_isWordChar (quote : Quote) {c : Char} (word : isWordChar c = true) :
    isPlainIn quote c = true := by
  refine isPlainIn_iff.2 ⟨?_, ?_⟩
  · rintro rfl
    rw [quote.isWordChar_mark] at word
    exact Bool.noConfusion word
  · rintro rfl
    rw [isWordChar_backslash] at word
    exact Bool.noConfusion word

theorem Quote.isBlankChar_mark (quote : Quote) : isBlankChar quote.mark = false := by
  cases quote <;> decide

/-! ## The rules for strings -/

/-- The quote of the string that a mode lies in. -/
def Mode.quote? : Mode → Option Quote
  | inLine quote | inTriple quote => some quote
  | code | blanks => none

theorem inLineStep_of_mark (quote : Quote) (rest : Text) :
    inLineStep quote quote.mark rest = ⟨.string, 0, .code⟩ := by
  rw [inLineStep, if_pos (beq_self_eq_true _)]

theorem inTripleStep_of_mark (quote : Quote) (rest : Text) :
    inTripleStep quote quote.mark rest =
      if completesTriple quote rest then ⟨.string, 2, .code⟩
      else ⟨.string, 0, .inTriple quote⟩ := by
  rw [inTripleStep, if_pos (beq_self_eq_true _)]

theorem inLineStep_of_backslash (quote : Quote) (rest : Text) :
    inLineStep quote '\\' rest =
      if hasEscapable rest then ⟨.escape, 1, .inLine quote⟩
      else ⟨.brokenString, rest.length, .code⟩ := by
  rw [inLineStep, if_neg (by cases quote <;> decide), if_pos (beq_self_eq_true _)]

theorem inTripleStep_of_backslash (quote : Quote) (rest : Text) :
    inTripleStep quote '\\' rest =
      if hasEscapable rest then ⟨.escape, 1, .inTriple quote⟩
      else ⟨.string, 0, .inTriple quote⟩ := by
  rw [inTripleStep, if_neg (by cases quote <;> decide), if_pos (beq_self_eq_true _)]

theorem inLineStep_of_plain {quote : Quote} {c : Char} (plain : isPlainIn quote c = true)
    (rest : Text) :
    inLineStep quote c rest =
      ⟨.string, Text.countWhile (isPlainIn quote) rest, .inLine quote⟩ := by
  rw [isPlainIn_iff] at plain
  rw [inLineStep, if_neg (by simpa using plain.1), if_neg (by simpa using plain.2)]

theorem inTripleStep_of_plain {quote : Quote} {c : Char} (plain : isPlainIn quote c = true)
    (rest : Text) :
    inTripleStep quote c rest =
      ⟨.string, Text.countWhile (isPlainIn quote) rest, .inTriple quote⟩ := by
  rw [isPlainIn_iff] at plain
  rw [inTripleStep, if_neg (by simpa using plain.1), if_neg (by simpa using plain.2)]

/-- A character in a string is its quote, a backslash or plain. -/
theorem mark_or_backslash_or_plain (quote : Quote) (c : Char) :
    c = quote.mark ∨ c = '\\' ∨ isPlainIn quote c = true := by
  by_cases mark : c = quote.mark
  · exact .inl mark
  · by_cases escape : c = '\\'
    · exact .inr (.inl escape)
    · exact .inr (.inr (isPlainIn_iff.2 ⟨mark, escape⟩))

/-- On a line, nothing can be escaped only at its end. -/
theorem eq_nil_of_hasEscapable {rest : Text} (oneLine : '\n' ∉ rest)
    (missing : ¬ hasEscapable rest = true) : rest = [] := by
  cases rest with
  | nil => rfl
  | cons c others =>
      rw [hasEscapable, bne_iff_ne, ne_eq, not_not] at missing
      rw [missing] at oneLine
      exact absurd List.mem_cons_self oneLine

/-! ## The rules for code -/

theorem startsName_of_isBracket {d : Char} (bracket : isBracket d = true) :
    Text.startsName d = false := by
  have nameless : ("\x7b\x7d()[]" : Text).any Text.startsName = false := by decide
  rw [List.any_eq_false] at nameless
  exact Bool.eq_false_iff.2 (nameless d (List.contains_iff_mem.1 bracket))

/-- No name starts with the first character of a number with a fraction. -/
theorem startsName_of_isFloat {c : Char} {rest : Text} (isFloat : IsFloat (c :: rest)) :
    Text.startsName c = false := by
  generalize whole : c :: rest = text at isFloat
  obtain ⟨digits, fraction, exponent, decimal, -, -, -⟩ := isFloat
  cases digits with
  | nil =>
      rw [List.nil_append, List.cons.injEq] at whole
      rw [whole.1]
      decide
  | cons d others =>
      rw [List.cons_append, List.cons.injEq] at whole
      rw [whole.1]
      exact startsName_of_isDecimalDigit (decimal d List.mem_cons_self)

/-- A name is one token. -/
theorem plainStep_of_startsName {c : Char} (starts : Text.startsName c = true) (rest : Text) :
    plainStep c rest = ⟨.identifier, Text.countWhile isWordChar rest, .code⟩ := by
  have token := plainToken_plainStep c rest
  have nameless : ∀ {p : Char → Bool}, (∀ d, p d = true → Text.startsName d = false) →
      ¬ p c = true := by
    intro p other passed
    rw [other c passed] at starts
    exact Bool.noConfusion starts
  generalize plainStep c rest = step at token ⊢
  cases token with
  | identifier => rfl
  | float extra length =>
      rw [startsName_of_isFloat (isFloat_of_length length)] at starts
      exact Bool.noConfusion starts
  | number digit => exact absurd digit (nameless fun _ => startsName_of_isDecimalDigit)
  | quote quote mark =>
      rw [mark] at starts
      exact absurd starts (by cases quote <;> decide)
  | white separator => exact absurd separator (nameless fun _ => startsName_of_separates)
  | comment sign =>
      rw [sign] at starts
      exact absurd starts (by decide)
  | bracket bracket => exact absurd bracket (nameless fun _ => startsName_of_isBracket)
  | operator operator => exact absurd operator (nameless fun _ => startsName_of_isOperatorChar)
  | invalid _ _ _ _ _ _ noName =>
      rw [noName] at starts
      exact Bool.noConfusion starts

/-- Where no point stands behind the digits, there is no fraction. -/
theorem floatLength_of_no_point {text : Text}
    (noPoint : (text.dropWhile isDecimalDigit).head? ≠ some '.') : floatLength text = 0 := by
  simp only [floatLength, drop_countWhile]
  split
  · rename_i point
    rw [point] at noPoint
    exact absurd rfl noPoint
  · rfl

/-- Behind a point, a fraction needs a digit and takes an exponent with it. -/
theorem floatLength_of_point {text fraction : Text}
    (point : text.dropWhile isDecimalDigit = '.' :: fraction) :
    floatLength text =
      if fraction.takeWhile isDecimalDigit = [] then 0
      else Text.countWhile isDecimalDigit text + 1 + Text.countWhile isDecimalDigit fraction
        + exponentLength (fraction.dropWhile isDecimalDigit) := by
  simp only [floatLength, drop_countWhile, point]
  split
  · rename_i none
    rw [if_pos (List.length_eq_zero_iff.1 none)]
  · rename_i some
    rw [if_neg (takeWhile_ne_nil_of_count some), drop_countWhile]

theorem floatLength_of_mark {c : Char} (noDigit : isDecimalDigit c = false) (noPoint : c ≠ '.')
    (rest : Text) : floatLength (c :: rest) = 0 := by
  apply floatLength_of_no_point
  rw [List.dropWhile_cons_of_neg (Bool.eq_false_iff.1 noDigit), List.head?_cons]
  exact fun same => noPoint (Option.some_inj.1 same)

theorem plainStep_mark (quote : Quote) (rest : Text) :
    plainStep quote.mark rest = openingStep quote rest := by
  have noDigit : isDecimalDigit quote.mark = false := by cases quote <;> decide
  have noPoint : quote.mark ≠ '.' := by cases quote <;> decide
  rw [plainStep, floatLength_of_mark noDigit noPoint]
  simp only [noDigit, Bool.false_eq_true, if_false]
  cases quote with
  | double => rw [if_pos (beq_self_eq_true _)]
  | single => rw [if_neg (by decide), if_pos (beq_self_eq_true _)]

/-- On a line, a number sign in code starts a comment that runs to its end. -/
theorem plainStep_sign {rest : Text} (oneLine : '\n' ∉ rest) :
    plainStep '#' rest = ⟨.comment, rest.length, .code⟩ := by
  have noDigit : isDecimalDigit '#' = false := by decide
  rw [plainStep, floatLength_of_mark noDigit (by decide)]
  simp only [noDigit, Bool.false_eq_true, if_false]
  rw [if_neg (by decide), if_neg (by decide), blankStep?, if_neg (by decide),
    if_pos (beq_self_eq_true _), commentLength?_of_oneLine oneLine]
  rfl

/-- Blanks in code are one token. -/
theorem plainStep_of_separates {c : Char} (separator : separates c = true) (rest : Text) :
    plainStep c rest = ⟨.white, Text.countWhile separates rest, .code⟩ := by
  have outside : ∀ {p : Char → Bool}, (" \t\r\x0c\x0b" : Text).any p = false → ¬ p c = true := by
    intro p apart
    rw [List.any_eq_false] at apart
    apply apart
    simp only [separates, Bool.or_eq_true, beq_iff_eq] at separator
    rcases separator with (((rfl | rfl) | rfl) | rfl) | rfl <;> decide
  have noDigit : ¬ isDecimalDigit c = true := outside (by decide)
  have noPoint : c ≠ '.' := fun same => outside (p := (· == '.')) (by decide) (by rw [same]; rfl)
  rw [plainStep, floatLength_of_mark (Bool.eq_false_iff.2 noDigit) noPoint]
  simp only [if_neg noDigit]
  rw [if_neg (outside (p := (· == Quote.double.mark)) (by decide)),
    if_neg (outside (p := (· == Quote.single.mark)) (by decide)), blankStep?, if_pos separator]

/-- The rules that stay in code look ahead for a fraction and over runs of a class only. -/
theorem plainStep_congr {c : Char} {rest other : Text} (stays : leavesCode c = false)
    (float : floatLength (c :: other) = floatLength (c :: rest))
    (digits : Text.countWhile isDecimalDigit other = Text.countWhile isDecimalDigit rest)
    (blanks : separates c = true →
      Text.countWhile separates other = Text.countWhile separates rest)
    (operators : Text.countWhile isOperatorChar other = Text.countWhile isOperatorChar rest)
    (name : Text.startsName c = true →
      Text.countWhile isWordChar other = Text.countWhile isWordChar rest) :
    plainStep c other = plainStep c rest := by
  simp only [leavesCode, codeExits, List.contains_cons, List.contains_nil,
    Bool.or_eq_false_iff] at stays
  obtain ⟨noDouble, noSingle, noSign, -⟩ := stays
  unfold plainStep blankStep?
  rw [float, digits, operators]
  simp only [Quote.mark, noDouble, noSingle, noSign, Bool.false_eq_true, if_false]
  by_cases separator : separates c = true
  · rw [blanks separator]
    simp only [if_pos separator]
  · simp only [if_neg separator]
    by_cases starts : Text.startsName c = true
    · rw [name starts]
    · simp only [if_neg starts]

/-- Only quotes and number signs lead out of code. -/
theorem leavesCode_cases {c : Char} (leaves : leavesCode c = true) :
    (∃ quote : Quote, c = quote.mark) ∨ c = '#' := by
  simp only [leavesCode, codeExits, List.contains_cons, List.contains_nil, Bool.or_eq_true,
    beq_iff_eq, Bool.false_eq_true, or_false] at leaves
  rcases leaves with double | single | sign
  · exact .inl ⟨.double, double⟩
  · exact .inl ⟨.single, single⟩
  · exact .inr sign

/-- A token that starts with neither a quote nor a number sign stays in code. -/
theorem plainToken_of_stays {c : Char} {rest : Text} {step : TokenStep}
    (stays : leavesCode c = false) (token : PlainToken c rest step) :
    step.mode = .code ∧ step.kind.region = .code := by
  cases token with
  | quote quote mark =>
      rw [mark] at stays
      cases quote <;> exact Bool.noConfusion stays
  | comment sign =>
      rw [sign] at stays
      exact Bool.noConfusion stays
  | _ => exact ⟨rfl, rfl⟩

end KeywordBridge
