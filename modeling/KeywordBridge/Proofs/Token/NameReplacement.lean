import KeywordBridge.Proofs.Token.Identifiers

/-!
# A keyword in the place of a name

Which tokens a line has in front of a name does not depend on the name, as long as the
name follows no word character: every rule that looks ahead stops there, and strings that
are closed in front of the name are closed whatever follows. What follows a name does not
depend on it either. So a keyword may take the place of a name token, and no other token
of the line changes.
-/

namespace KeywordBridge

/-! ## Looking ahead up to a name -/

/-- Does a name start the text, unless it is empty? -/
def Text.OpensName (text : Text) : Prop :=
  ∀ d ∈ text.head?, startsName d = true

theorem Text.opensName_cons {d : Char} (starts : startsName d = true) (behind : Text) :
    OpensName (d :: behind) := by
  intro e first
  cases first
  exact starts

section

variable {ahead other : Text} (opens : other.OpensName)

include opens

theorem stop_of_nameless {p : Char → Bool}
    (nameless : ∀ d, p d = true → Text.startsName d = false) : ∀ d ∈ other.head?, p d = false := by
  intro d first
  rw [Bool.eq_false_iff]
  intro passed
  exact Bool.noConfusion ((opens d first).symm.trans (nameless d passed))

theorem takeWhile_append_of_nameless {p : Char → Bool}
    (nameless : ∀ d, p d = true → Text.startsName d = false) :
    (ahead ++ other).takeWhile p = ahead.takeWhile p :=
  takeWhile_append_of_head (stop_of_nameless opens nameless)

theorem dropWhile_append_of_nameless {p : Char → Bool}
    (nameless : ∀ d, p d = true → Text.startsName d = false) :
    (ahead ++ other).dropWhile p = ahead.dropWhile p ++ other :=
  dropWhile_append_of_head (stop_of_nameless opens nameless)

theorem countWhile_append_of_nameless {p : Char → Bool}
    (nameless : ∀ d, p d = true → Text.startsName d = false) :
    Text.countWhile p (ahead ++ other) = Text.countWhile p ahead := by
  rw [Text.countWhile, takeWhile_append_of_nameless opens nameless, Text.countWhile]

/-- Marks are found in front of a name or not at all. -/
theorem isPrefixOf_append_of_marks {marks : Text} (outside : ∀ m ∈ marks, isWordChar m = false) :
    marks.isPrefixOf (ahead ++ other) = marks.isPrefixOf ahead := by
  induction marks generalizing ahead with
  | nil => rw [List.isPrefixOf_nil_left, List.isPrefixOf_nil_left]
  | cons m others ih =>
      rw [List.forall_mem_cons] at outside
      cases ahead with
      | nil =>
          cases other with
          | nil => rfl
          | cons d behind =>
              have word := isWordChar_of_startsName (opens d rfl)
              have apart : m ≠ d := by
                rintro rfl
                rw [outside.1] at word
                cases word
              rw [List.nil_append, List.isPrefixOf_cons_cons, beq_eq_false_iff_ne.2 apart]
              rfl
      | cons c rest =>
          rw [List.cons_append, List.isPrefixOf_cons_cons, List.isPrefixOf_cons_cons,
            ih outside.2]

theorem completesTriple_append (quote : Quote) :
    completesTriple quote (ahead ++ other) = completesTriple quote ahead := by
  apply isPrefixOf_append_of_marks opens
  intro m member
  rw [List.mem_cons, List.mem_singleton, or_self] at member
  rw [member, quote.isWordChar_mark]

end

/-- A word that stops in front of a place stops there whatever follows. -/
theorem takeWhile_word_append {c : Char} {ahead : Text}
    (mark : Text.isWordSide (c :: ahead).getLast? = false) (other : Text) :
    (c :: (ahead ++ other)).takeWhile isWordChar = (c :: ahead).takeWhile isWordChar := by
  induction ahead generalizing c with
  | nil =>
      have outside : ¬ isWordChar c = true := Bool.eq_false_iff.1 mark
      rw [List.takeWhile_cons_of_neg outside, List.takeWhile_cons_of_neg outside]
  | cons d rest ih =>
      rw [List.getLast?_cons_cons] at mark
      by_cases first : isWordChar c = true
      · rw [List.cons_append, List.takeWhile_cons_of_pos first, List.takeWhile_cons_of_pos first,
          ih mark]
      · rw [List.takeWhile_cons_of_neg first, List.takeWhile_cons_of_neg first]

/-- A run that ends in front of a character of its class ends there whatever follows. -/
theorem takeWhile_append_of_within {p : Char → Bool} {ahead : Text} {d : Char} {behind : Text}
    (passed : p d = true)
    (within : Text.countWhile p (ahead ++ d :: behind) ≤ ahead.length) (other : Text) :
    (ahead ++ other).takeWhile p = ahead.takeWhile p := by
  induction ahead with
  | nil =>
      rw [Text.countWhile, List.nil_append, List.takeWhile_cons_of_pos passed] at within
      exact absurd within (Nat.not_succ_le_zero _)
  | cons c rest ih =>
      by_cases first : p c = true
      · rw [Text.countWhile, List.cons_append, List.takeWhile_cons_of_pos first,
          List.length_cons, List.length_cons, Nat.succ_le_succ_iff] at within
        rw [List.cons_append, List.takeWhile_cons_of_pos first, List.takeWhile_cons_of_pos first,
          ih within]
      · rw [List.cons_append, List.takeWhile_cons_of_neg first, List.takeWhile_cons_of_neg first]

/-! ## Numbers -/

section

variable {c : Char} {ahead other : Text} (opens : other.OpensName)
  (mark : Text.isWordSide (c :: ahead).getLast? = false)

include opens mark

/-- An exponent does not end with a mark, so it lies in front of the mark. -/
theorem exponentLength_append :
    exponentLength (c :: (ahead ++ other)) = exponentLength (c :: ahead) := by
  have digit : ∀ d, isDecimalDigit d = true → Text.startsName d = false :=
    fun _ => startsName_of_isDecimalDigit
  simp only [exponentLength]
  split
  · rename_i isMark
    cases ahead with
    | nil =>
        rw [Bool.or_eq_true, beq_iff_eq, beq_iff_eq] at isMark
        rcases isMark with rfl | rfl
        · exact absurd mark (by decide)
        · exact absurd mark (by decide)
    | cons sign unsigned =>
        have whole := @countWhile_append_of_nameless (sign :: unsigned) other opens _ digit
        rw [List.cons_append] at whole
        simp only [List.cons_append, whole, countWhile_append_of_nameless opens digit]
  · rfl

omit mark in
/-- Behind the digits of a fraction an exponent can only stand in front of a mark. -/
theorem exponentLength_behind_digits {fraction : Text}
    (nonempty : fraction.takeWhile isDecimalDigit ≠ [])
    (mark : Text.isWordSide fraction.getLast? = false) :
    exponentLength (fraction.dropWhile isDecimalDigit ++ other) =
      exponentLength (fraction.dropWhile isDecimalDigit) := by
  have split := fraction.takeWhile_append_dropWhile (p := isDecimalDigit)
  cases exponent : fraction.dropWhile isDecimalDigit with
  | nil =>
      rw [exponent, List.append_nil] at split
      rw [← split] at mark
      have isWord : Text.IsWord (fraction.takeWhile isDecimalDigit) :=
        ⟨nonempty, fun d member => isWordChar_of_isDecimalDigit (List.mem_takeWhile_imp member)⟩
      rw [isWord.isWordSide_getLast?] at mark
      cases mark
  | cons e behind =>
      rw [exponent] at split
      rw [← split, List.getLast?_append_of_ne_nil _ (List.cons_ne_nil _ _)] at mark
      rw [List.cons_append, exponentLength_append opens mark]

theorem floatLength_append :
    floatLength (c :: (ahead ++ other)) = floatLength (c :: ahead) := by
  have digit : ∀ d, isDecimalDigit d = true → Text.startsName d = false :=
    fun _ => startsName_of_isDecimalDigit
  have whole := @countWhile_append_of_nameless (c :: ahead) other opens _ digit
  have behind := @dropWhile_append_of_nameless (c :: ahead) other opens _ digit
  have cut := (c :: ahead).takeWhile_append_dropWhile (p := isDecimalDigit)
  rw [List.cons_append] at whole behind
  cases rest : (c :: ahead).dropWhile isDecimalDigit with
  | nil =>
      have noPoint : other.head? ≠ some '.' := by
        intro point
        exact absurd (opens '.' point) (by decide)
      rw [rest, List.nil_append] at behind
      rw [floatLength_of_no_point (by rwa [behind]), floatLength_of_no_point (by rw [rest]; decide)]
  | cons first fraction =>
      rw [rest, List.cons_append] at behind
      by_cases isPoint : first = '.'
      · subst isPoint
        rw [floatLength_of_point behind, floatLength_of_point rest, whole,
          takeWhile_append_of_nameless opens digit, countWhile_append_of_nameless opens digit,
          dropWhile_append_of_nameless opens digit]
        by_cases none : fraction.takeWhile isDecimalDigit = []
        · rw [if_pos none, if_pos none]
        · have nonempty : fraction ≠ [] := by
            rintro rfl
            exact none List.takeWhile_nil
          have markHere : Text.isWordSide fraction.getLast? = false := by
            rwa [← cut, rest, List.append_cons, List.getLast?_append_of_ne_nil _ nonempty] at mark
          rw [if_neg none, if_neg none, exponentLength_behind_digits opens none markHere]
      · have noPoint : some first ≠ some '.' := fun same => isPoint (Option.some_inj.1 same)
        rw [floatLength_of_no_point (by rwa [behind]), floatLength_of_no_point (by rwa [rest])]

/-- A token of code that is no string and no comment does not depend on the name. -/
theorem plainStep_append (stays : leavesCode c = false) :
    plainStep c (ahead ++ other) = plainStep c ahead := by
  apply plainStep_congr stays (floatLength_append opens mark)
  · exact countWhile_append_of_nameless opens fun _ => startsName_of_isDecimalDigit
  · exact fun _ => countWhile_append_of_nameless opens fun _ => startsName_of_separates
  · exact countWhile_append_of_nameless opens fun _ => startsName_of_isOperatorChar
  · intro starts
    have word : isWordChar c = true := isWordChar_of_startsName starts
    have run := takeWhile_word_append mark other
    rw [List.takeWhile_cons_of_pos word, List.takeWhile_cons_of_pos word,
      List.cons_inj_right] at run
    rw [Text.countWhile, run, Text.countWhile]

end

/-! ## One token in front of a name -/

section

variable {quote : Quote} {c : Char} {ahead other : Text} {d : Char} {behind : Text}

/-- What reaches the end of the line does not end in front of anything. -/
theorem not_length_append_le : ¬ (ahead ++ d :: behind).length ≤ ahead.length := by
  rw [List.length_append, List.length_cons]
  omega

variable (starts : Text.startsName d = true)

include starts

theorem hasEscapable_of_startsName : hasEscapable (d :: behind) = true := by
  rw [hasEscapable, bne_iff_ne]
  rintro rfl
  exact absurd starts (by decide)

/-- A run of plain characters that ends in front of a name ends there whatever follows. -/
theorem countWhile_plain_append
    (within : Text.countWhile (isPlainIn quote) (ahead ++ d :: behind) ≤ ahead.length) :
    Text.countWhile (isPlainIn quote) (ahead ++ other) =
      Text.countWhile (isPlainIn quote) (ahead ++ d :: behind) := by
  have plain := isPlainIn_of_isWordChar quote (isWordChar_of_startsName starts)
  rw [Text.countWhile, takeWhile_append_of_within plain within,
    ← takeWhile_append_of_within plain within (d :: behind), Text.countWhile]

theorem inLineStep_append
    (within : (inLineStep quote c (ahead ++ d :: behind)).extra ≤ ahead.length) :
    inLineStep quote c (ahead ++ other) = inLineStep quote c (ahead ++ d :: behind) := by
  rcases mark_or_backslash_or_plain quote c with rfl | rfl | plain
  · rw [inLineStep_of_mark, inLineStep_of_mark]
  · rw [inLineStep_of_backslash] at within
    rw [inLineStep_of_backslash, inLineStep_of_backslash]
    cases ahead with
    | nil =>
        rw [List.nil_append, if_pos (hasEscapable_of_startsName starts)] at within
        exact absurd within (Nat.not_succ_le_zero 0)
    | cons e rest =>
        have same : hasEscapable (e :: rest ++ other) = hasEscapable (e :: rest ++ d :: behind) :=
          rfl
        rw [same]
        by_cases escapable : hasEscapable (e :: rest ++ d :: behind) = true
        · rw [if_pos escapable, if_pos escapable]
        · rw [if_neg escapable] at within
          exact absurd within not_length_append_le
  · rw [inLineStep_of_plain plain] at within
    rw [inLineStep_of_plain plain, inLineStep_of_plain plain, countWhile_plain_append starts within]

theorem inTripleStep_append (opens : other.OpensName)
    (within : (inTripleStep quote c (ahead ++ d :: behind)).extra ≤ ahead.length) :
    inTripleStep quote c (ahead ++ other) = inTripleStep quote c (ahead ++ d :: behind) := by
  rcases mark_or_backslash_or_plain quote c with rfl | rfl | plain
  · rw [inTripleStep_of_mark, inTripleStep_of_mark, completesTriple_append opens,
      completesTriple_append (Text.opensName_cons starts behind)]
  · rw [inTripleStep_of_backslash] at within
    rw [inTripleStep_of_backslash, inTripleStep_of_backslash]
    cases ahead with
    | nil =>
        rw [List.nil_append, if_pos (hasEscapable_of_startsName starts)] at within
        exact absurd within (Nat.not_succ_le_zero 0)
    | cons e rest => rfl
  · rw [inTripleStep_of_plain plain] at within
    rw [inTripleStep_of_plain plain, inTripleStep_of_plain plain,
      countWhile_plain_append starts within]

/-- A quote in code opens the same string, if this is closed in front of the name whatever
follows. -/
theorem openingStep_append (opens : other.OpensName)
    (within : (openingStep quote (ahead ++ d :: behind)).extra ≤ ahead.length)
    (closes : (openingStep quote (ahead ++ d :: behind)).mode = .inLine quote →
      staysOpen quote (ahead ++ other) = false) :
    openingStep quote (ahead ++ other) = openingStep quote (ahead ++ d :: behind) := by
  have opensBack := Text.opensName_cons starts behind
  unfold openingStep at *
  rw [completesTriple_append opensBack] at within closes
  rw [completesTriple_append opens, completesTriple_append opensBack]
  split
  · rfl
  · rename_i single
    rw [if_neg single] at within closes
    by_cases stays : staysOpen quote (ahead ++ d :: behind) = true
    · rw [if_pos stays] at within
      exact absurd within not_length_append_le
    · rw [if_neg stays] at closes
      rw [if_neg stays, closes rfl, if_neg Bool.false_ne_true]

/-- A comment does not end in front of a name. -/
theorem plainStep_append_of_within (oneLine : '\n' ∉ ahead ++ d :: behind)
    (mark : Text.isWordSide (c :: ahead).getLast? = false) (opens : other.OpensName)
    (within : (plainStep c (ahead ++ d :: behind)).extra ≤ ahead.length)
    (closes : ∀ quote, (plainStep c (ahead ++ d :: behind)).mode = .inLine quote →
      staysOpen quote (ahead ++ other) = false) :
    plainStep c (ahead ++ other) = plainStep c (ahead ++ d :: behind) := by
  by_cases leaves : leavesCode c = true
  · rcases leavesCode_cases leaves with ⟨quote, rfl⟩ | rfl
    · have closesHere := closes quote
      rw [plainStep_mark] at within closesHere
      rw [plainStep_mark, plainStep_mark, openingStep_append starts opens within closesHere]
    · rw [plainStep_sign oneLine] at within
      exact absurd within not_length_append_le
  · have stays := Bool.eq_false_iff.2 leaves
    rw [plainStep_append opens mark stays,
      plainStep_append (Text.opensName_cons starts behind) mark stays]

theorem codeStep_append {words : List Text} (isWord : ∀ word ∈ words, word.IsWord)
    {before : Option Char} (oneLine : '\n' ∉ ahead ++ d :: behind)
    (mark : Text.isWordSide (c :: ahead).getLast? = false) (opens : other.OpensName)
    (within : (codeStep words before c (ahead ++ d :: behind)).extra ≤ ahead.length)
    (closes : ∀ quote, (codeStep words before c (ahead ++ d :: behind)).mode = .inLine quote →
      staysOpen quote (ahead ++ other) = false) :
    codeStep words before c (ahead ++ other) =
      codeStep words before c (ahead ++ d :: behind) := by
  have same (text : Text) : keywordAt? words before (c :: (ahead ++ text)) =
      keywordAt? words before (c :: ahead) := by
    rw [keywordAt?_of_isWord isWord, keywordAt?_of_isWord isWord, takeWhile_word_append mark]
  rw [codeStep, same] at within closes
  rw [codeStep, codeStep, same, same]
  cases found : keywordAt? words before (c :: ahead) with
  | none =>
      rw [found] at within closes
      exact plainStep_append_of_within starts oneLine mark opens within closes
  | some word =>
      cases word with
      | cons first others => rfl
      | nil =>
          rw [found] at within closes
          exact plainStep_append_of_within starts oneLine mark opens within closes

/-- The next token does not depend on the name behind it, if it ends in front of the name
and the name follows no word character. -/
theorem step_append {words : List Text} (isWord : ∀ word ∈ words, word.IsWord) {mode : Mode}
    (known : mode ≠ .blanks) {before : Option Char} (oneLine : '\n' ∉ ahead ++ d :: behind)
    (mark : Text.isWordSide (c :: ahead).getLast? = false) (opens : other.OpensName)
    (within : (mode.step words before c (ahead ++ d :: behind)).extra ≤ ahead.length)
    (closes : ∀ quote, mode = .code →
      (mode.step words before c (ahead ++ d :: behind)).mode = .inLine quote →
        staysOpen quote (ahead ++ other) = false) :
    mode.step words before c (ahead ++ other) =
      mode.step words before c (ahead ++ d :: behind) := by
  cases mode with
  | code =>
      exact codeStep_append starts isWord oneLine mark opens within fun quote => closes quote rfl
  | inLine quote => exact inLineStep_append starts within
  | inTriple quote => exact inTripleStep_append starts opens within
  | blanks => exact absurd rfl known

end

/-! ## A line up to a name -/

theorem scanFrom_cons (words : List Text) (mode : Mode) (before : Option Char) (c : Char)
    (rest : Text) :
    let step := mode.step words before c rest
    let others := scanFrom words step.mode (c :: rest.take step.extra).getLast?
      (rest.drop step.extra)
    scanFrom words mode before (c :: rest) =
      (⟨step.kind, c :: rest.take step.extra⟩ :: others.1, others.2) := by
  rw [scanFrom]

/-- What the scan of a text did first. -/
theorem exists_of_scanFrom_eq_cons {words : List Text} {mode : Mode} {before : Option Char}
    {text : Text} {first : Lexeme} {others : List Lexeme} {final : Mode}
    (scanned : scanFrom words mode before text = (first :: others, final)) :
    ∃ c rest, text = c :: rest ∧
      let step := mode.step words before c rest
      first = ⟨step.kind, c :: rest.take step.extra⟩ ∧
        scanFrom words step.mode first.value.getLast? (rest.drop step.extra) = (others, final) := by
  cases text with
  | nil =>
      rw [scanFrom] at scanned
      cases scanned
  | cons c rest =>
      rw [scanFrom_cons] at scanned
      cases scanned
      exact ⟨c, rest, rfl, rfl, rfl⟩

theorem source_of_scanFrom_eq {words : List Text} {mode : Mode} {before : Option Char}
    {text : Text} {lexemes : List Lexeme} {final : Mode}
    (scanned : scanFrom words mode before text = (lexemes, final)) :
    Lexeme.source lexemes = text := by
  have source := source_scanFrom words mode before text
  rwa [scanned] at source

/-- A token with others behind it is as long as its step says. -/
theorem length_take_of_scanFrom_eq {words : List Text} {mode : Mode} {before : Option Char}
    {rest : Text} {extra : Nat} {lexemes : List Lexeme} {final : Mode}
    (behind : scanFrom words mode before (rest.drop extra) = (lexemes, final))
    (nonempty : lexemes ≠ []) : (rest.take extra).length = extra := by
  apply List.length_take_of_le
  by_contra beyond
  rw [List.drop_eq_nil_of_le (Nat.le_of_not_le beyond), scanFrom] at behind
  exact nonempty (congrArg Prod.fst behind).symm

/-- A string behind which a name token stands on the line is closed in front of it. -/
theorem staysOpen_of_identifier {words : List Text} {quote : Quote} {before : Option Char}
    {text : Text} {earlier : List Lexeme} {word : Text} {later : List Lexeme} {final : Mode}
    (scanned : scanFrom words (.inLine quote) before text =
      (earlier ++ ⟨.identifier, word⟩ :: later, final)) (other : Text) :
    staysOpen quote (Lexeme.source earlier ++ other) = false := by
  induction earlier generalizing before text with
  | nil =>
      obtain ⟨c, rest, rfl, first, -⟩ := exists_of_scanFrom_eq_cons scanned
      have kind := congrArg Lexeme.kind first
      have string := (inLineStep_inString quote c rest).1
      change TokenKind.identifier = (inLineStep quote c rest).kind at kind
      rw [← kind] at string
      cases string
  | cons first earlier ih =>
      obtain ⟨c, rest, rfl, rfl, behind⟩ := exists_of_scanFrom_eq_cons scanned
      rw [Lexeme.source_cons, List.append_assoc]
      change scanFrom words (inLineStep quote c rest).mode _
        (rest.drop (inLineStep quote c rest).extra) = _ at behind
      show staysOpen quote
        (c :: rest.take (inLineStep quote c rest).extra ++ (Lexeme.source earlier ++ other)) = false
      rcases mark_or_backslash_or_plain quote c with rfl | rfl | plain
      · rw [List.cons_append, staysOpen_of_mark]
      · rw [inLineStep_of_backslash] at behind ⊢
        by_cases escapable : hasEscapable rest = true
        · rw [if_pos escapable] at behind ⊢
          cases rest with
          | nil => cases escapable
          | cons d rest =>
              show (d != '\n' && staysOpen quote (Lexeme.source earlier ++ other)) = false
              rw [ih behind, Bool.and_false]
        · rw [if_neg escapable, List.drop_length, scanFrom] at behind
          have none := congrArg Prod.fst behind
          exact absurd none.symm
            (List.append_ne_nil_of_right_ne_nil earlier (List.cons_ne_nil _ later))
      · rw [inLineStep_of_plain plain] at behind ⊢
        rw [staysOpen_append (fun d member => isPlainIn_of_mem_take plain d member), ih behind]

/-- The quote of a string that has to end on its line is a token of its own. -/
theorem CodeToken.extra_of_inLine {words : List Text} {before : Option Char} {c : Char}
    {rest : Text} {step : TokenStep} {quote : Quote} (token : CodeToken words before c rest step)
    (opened : step.mode = .inLine quote) : step.extra = 0 := by
  cases token with
  | keyword => cases opened
  | plain _ token =>
      cases token with
      | quote other mark =>
          unfold openingStep at *
          split at opened
          · cases opened
          · rename_i single
            split at opened
            · cases opened
            · rename_i closed
              rw [if_neg single, if_neg closed]
      | _ => cases opened

section

variable {words : List Text} (isWord : ∀ word ∈ words, word.IsWord)

include isWord

/-- In front of a name that follows no word character, a line has the same tokens
whatever it goes on with, if this starts with a name. -/
theorem scanFrom_front_append {mode : Mode} (known : mode ≠ .blanks) {before : Option Char}
    {text : Text} (oneLine : '\n' ∉ text) {earlier : List Lexeme} {word : Text}
    {later : List Lexeme} {final : Mode}
    (scanned : scanFrom words mode before text =
      (earlier ++ ⟨.identifier, word⟩ :: later, final))
    (mark : Text.isWordSide ((Lexeme.source earlier).getLast?.or before) = false)
    {other : Text} (opens : other.OpensName) :
    let behind := scanFrom words .code ((Lexeme.source earlier).getLast?.or before) other
    scanFrom words mode before (Lexeme.source earlier ++ other) =
      (earlier ++ behind.1, behind.2) := by
  induction earlier generalizing mode before text with
  | nil =>
      obtain ⟨c, rest, rfl, first, -⟩ := exists_of_scanFrom_eq_cons scanned
      have kind := (congrArg Lexeme.kind first).symm
      obtain ⟨rfl, -⟩ := step_of_identifier isWord known kind
      rfl
  | cons first earlier ih =>
      have split := congrArg Prod.fst scanned
      obtain ⟨d, name, rfl, starts, -⟩ := (isName_of_identifier isWord known split).1.exists_cons
      obtain ⟨c, rest, rfl, rfl, scannedBehind⟩ := exists_of_scanFrom_eq_cons scanned
      rw [List.append_eq] at scannedBehind
      rw [List.mem_cons, not_or] at oneLine
      have goesOn := mode_step_ne_blanks isWord known before c rest
      generalize stepIs : mode.step words before c rest = step at *
      have source := source_of_scanFrom_eq scannedBehind
      rw [Lexeme.source_append, Lexeme.source_cons, List.cons_append] at source
      have whole : rest.take step.extra ++ Lexeme.source earlier ++
          d :: (name ++ Lexeme.source later) = rest := by
        rw [List.append_assoc, source, List.take_append_drop]
      have length := length_take_of_scanFrom_eq scannedBehind
        (List.append_ne_nil_of_right_ne_nil earlier (List.cons_ne_nil _ later))
      -- The character in front of the name is the same for the first token and behind it.
      have last : (Lexeme.source (⟨step.kind, c :: rest.take step.extra⟩ :: earlier)).getLast?.or
          before = (Lexeme.source earlier).getLast?.or (c :: rest.take step.extra).getLast? := by
        rw [Lexeme.source_cons, List.getLast?_append, Option.or_assoc, List.getLast?_cons,
          Option.some_or]
      have markHere : Text.isWordSide
          (c :: (rest.take step.extra ++ Lexeme.source earlier)).getLast? = false := by
        rw [← List.cons_append, List.getLast?_append, ← last, mark]
      have same : mode.step words before c
          (rest.take step.extra ++ Lexeme.source earlier ++ other) = step := by
        have found := @step_append c (rest.take step.extra ++ Lexeme.source earlier) other d
          (name ++ Lexeme.source later) starts words isWord mode known before
        rw [whole, stepIs, List.length_append, length] at found
        apply found oneLine.2 markHere opens (Nat.le_add_right _ _)
        rintro quote rfl opened
        have token := codeToken_codeStep isWord before c rest
        change codeStep words before c rest = step at stepIs
        rw [stepIs] at token
        rw [opened] at scannedBehind
        rw [token.extra_of_inLine opened, List.take_zero, List.nil_append]
        exact staysOpen_of_identifier scannedBehind other
      rw [last] at mark ⊢
      have again := ih goesOn (fun member => oneLine.2 (List.mem_of_mem_drop member))
        scannedBehind mark
      rw [Lexeme.source_cons, List.cons_append, List.cons_append, scanFrom_cons]
      simp only [same]
      rw [List.append_assoc, List.take_left' length, List.drop_left' length, again]
      rfl

/-! ## A keyword for a name -/

/-- Where no word goes on, the character in front does not matter. -/
theorem scanFrom_of_stop (first second : Option Char) {text : Text}
    (stop : Text.isWordSide text.head? = false) :
    scanFrom words .code first text = scanFrom words .code second text := by
  cases text with
  | nil => rw [scanFrom, scanFrom]
  | cons c rest =>
      have same : Mode.code.step words first c rest = Mode.code.step words second c rest := by
        show codeStep words first c rest = codeStep words second c rest
        rw [codeStep, codeStep, keywordAt?_of_mark isWord first stop,
          keywordAt?_of_mark isWord second stop]
      rw [scanFrom_cons, scanFrom_cons, same]

theorem scanFrom_keyword {before : Option Char} (start : Text.isWordSide before = false)
    {word rest : Text} (listed : word ∈ words) (stop : Text.isWordSide rest.head? = false) :
    let behind := scanFrom words .code word.getLast? rest
    scanFrom words .code before (word ++ rest) = (⟨.keyword, word⟩ :: behind.1, behind.2) := by
  obtain ⟨nonempty, chars⟩ := isWord word listed
  have run := Text.takeWhile_append_of_stop chars stop
  cases word with
  | nil => exact absurd rfl nonempty
  | cons c others =>
      have found : keywordAt? words before (c :: others ++ rest) = some (c :: others) := by
        rw [keywordAt?_of_isWord isWord, run, if_pos ⟨start, listed⟩]
      have step : Mode.code.step words before c (others ++ rest) =
          ⟨.keyword, others.length, .code⟩ := by
        show codeStep words before c (others ++ rest) = _
        rw [codeStep, ← List.cons_append, found]
      rw [List.cons_append, scanFrom_cons]
      simp only [step, List.take_left, List.drop_left]

/-- What follows a name token is code of its own. -/
theorem scanFrom_behind_identifier {mode : Mode} (known : mode ≠ .blanks)
    {before : Option Char} {text word : Text} {later : List Lexeme} {final : Mode}
    (scanned : scanFrom words mode before text = (⟨.identifier, word⟩ :: later, final)) :
    scanFrom words .code word.getLast? (Lexeme.source later) = (later, final) := by
  obtain ⟨c, rest, rfl, first, behind⟩ := exists_of_scanFrom_eq_cons scanned
  have kind := (congrArg Lexeme.kind first).symm
  obtain ⟨-, -, -, step⟩ := step_of_identifier isWord known kind
  rw [← source_of_scanFrom_eq behind, step] at behind
  exact behind

/-- A keyword in the place of a name token that follows no word character is a token of
its own, and the other tokens of the line stay as they are. -/
theorem scanFrom_replace_identifier {mode : Mode} (known : mode ≠ .blanks)
    {before : Option Char} {text : Text} (oneLine : '\n' ∉ text) {earlier : List Lexeme}
    {word : Text} {later : List Lexeme} {final : Mode}
    (scanned : scanFrom words mode before text =
      (earlier ++ ⟨.identifier, word⟩ :: later, final))
    (mark : Text.isWordSide ((Lexeme.source earlier).getLast?.or before) = false)
    {keyword : Text} (listed : keyword ∈ words) (isName : keyword.IsName) :
    scanFrom words mode before (Lexeme.source earlier ++ (keyword ++ Lexeme.source later)) =
      (earlier ++ ⟨.keyword, keyword⟩ :: later, final) := by
  have split := congrArg Prod.fst scanned
  have source := source_of_scanFrom_eq scanned
  rw [Lexeme.source_append, Lexeme.source_cons] at source
  obtain ⟨isNameWord, stop⟩ := isName_of_identifier isWord known split
  have opensWith {name : Text} (isName : name.IsName) (rest : Text) : (name ++ rest).OpensName := by
    obtain ⟨c, others, rfl, starts, -⟩ := isName.exists_cons
    exact Text.opensName_cons starts (others ++ rest)
  have front {other : Text} (opens : other.OpensName) :=
    scanFrom_front_append isWord known oneLine scanned mark opens
  have here : scanFrom words .code ((Lexeme.source earlier).getLast?.or before)
      (word ++ Lexeme.source later) = (⟨.identifier, word⟩ :: later, final) := by
    have whole := front (opensWith isNameWord (Lexeme.source later))
    rw [source, scanned] at whole
    obtain ⟨lexemes, final⟩ := Prod.mk.inj whole
    exact Prod.ext (List.append_cancel_left lexemes).symm final.symm
  have behind := scanFrom_behind_identifier isWord Mode.noConfusion here
  rw [front (opensWith isName (Lexeme.source later)), scanFrom_keyword isWord mark listed stop,
    scanFrom_of_stop isWord _ word.getLast? stop, behind]

end

end KeywordBridge
