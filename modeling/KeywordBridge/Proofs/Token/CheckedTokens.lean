import KeywordBridge.Proofs.Token.AlikeReading
import KeywordBridge.Proofs.Token.CodeRuns
import KeywordBridge.Proofs.Token.Columns
import KeywordBridge.Proofs.Token.NameReplacement

/-!
# Tokens that are checked

The checks look at names, brackets and broken strings among the tokens of a line. There
are none of them in blanks, in comments and in the strings that are closed on their line.
-/

namespace KeywordBridge

/-! ## Tokens that are checked -/

/-- Do the checks look at the tokens of this kind? -/
def TokenKind.isChecked : TokenKind → Bool
  | identifier | bracket | brokenString => true
  | _ => false

namespace Lexeme

/-- The tokens of consecutive lexemes that the checks look at. -/
def checked (line : Int) (column : Nat) (lexemes : List Lexeme) : List Token :=
  (place line column lexemes).filter (·.kind.isChecked)

/-- No check looks at the lexemes. -/
def Unchecked (lexemes : List Lexeme) : Prop :=
  ∀ lexeme ∈ lexemes, lexeme.kind.isChecked = false

theorem checked_append (line : Int) (column : Nat) (first second : List Lexeme) :
    checked line column (first ++ second) =
      checked line column first ++ checked line (column + (source first).length) second := by
  rw [checked, place_append, List.filter_append]
  rfl

theorem Unchecked.checked_eq {lexemes : List Lexeme} (unchecked : Unchecked lexemes)
    (line : Int) (column : Nat) : checked line column lexemes = [] := by
  rw [checked, List.filter_eq_nil_iff]
  intro token member
  rw [unchecked _ (mem_of_mem_place member)]
  exact Bool.false_ne_true

theorem Unchecked.cons {lexeme : Lexeme} {others : List Lexeme}
    (here : lexeme.kind.isChecked = false) (behind : Unchecked others) :
    Unchecked (lexeme :: others) :=
  List.forall_mem_cons.2 ⟨here, behind⟩

end Lexeme

/-- The first token is cut off with the characters that belong to it. -/
theorem scanFrom_of_step {words : List Text} {mode : Mode} {before : Option Char} {c : Char}
    {more rest : Text} {step : TokenStep}
    (isStep : mode.step words before c (more ++ rest) = step)
    (length : step.extra = more.length) :
    (scanFrom words mode before (c :: (more ++ rest))).1 =
      ⟨step.kind, c :: more⟩ :: (scanFrom words step.mode (c :: more).getLast? rest).1 := by
  rw [scanFrom_cons, isStep, length, List.take_left, List.drop_left]

theorem unchecked_nil (words : List Text) (mode : Mode) (before : Option Char) :
    Lexeme.Unchecked (scanFrom words mode before []).1 := by
  rw [scanFrom]
  exact List.forall_mem_nil _

/-! ## Blanks and comments -/

section

variable {words : List Text} (isWord : ∀ word ∈ words, word.IsWord)

include isWord

theorem unchecked_comment (before : Option Char) {comment : Text} (oneLine : '\n' ∉ comment) :
    Lexeme.Unchecked (scanFrom words .code before ('#' :: comment)).1 := by
  have step : Mode.code.step words before '#' (comment ++ []) =
      ⟨.comment, comment.length, .code⟩ := by
    rw [List.append_nil]
    exact (codeStep_of_mark isWord before (by decide) comment).trans (plainStep_sign oneLine)
  have cut := scanFrom_of_step step rfl
  rw [List.append_nil] at cut
  rw [cut]
  exact .cons rfl (unchecked_nil words .code _)

/-- Nothing is checked in blanks. -/
theorem unchecked_separators {blanks rest : Text} (separators : ∀ c ∈ blanks, separates c = true)
    (stop : ∀ c ∈ rest.head?, separates c = false)
    (behind : ∀ before, Lexeme.Unchecked (scanFrom words .code before rest).1)
    (before : Option Char) :
    Lexeme.Unchecked (scanFrom words .code before (blanks ++ rest)).1 := by
  cases blanks with
  | nil => exact behind before
  | cons c more =>
      rw [List.forall_mem_cons] at separators
      have step : Mode.code.step words before c (more ++ rest) = ⟨.white, more.length, .code⟩ := by
        refine (codeStep_of_mark isWord before (isWordChar_of_separates separators.1) _).trans ?_
        rw [plainStep_of_separates separators.1, countWhile_run separators.2 stop]
      rw [List.cons_append, scanFrom_of_step step rfl]
      exact .cons rfl (behind _)

/-- Nothing is checked in blanks and a comment behind them. -/
theorem unchecked_blanks_comment {blanks comment : Text}
    (separators : ∀ c ∈ blanks, separates c = true) (oneLine : '\n' ∉ comment)
    (before : Option Char) :
    Lexeme.Unchecked (scanFrom words .code before (blanks ++ '#' :: comment)).1 := by
  have sign : ∀ d ∈ ('#' :: comment).head?, separates d = false := by
    intro d first
    cases first
    decide
  exact unchecked_separators isWord separators sign
    (fun before => unchecked_comment isWord before oneLine) before

end

/-! ## Strings that are closed on their line -/

/-- A string ends with the quote behind its content. -/
theorem staysOpen_append_mark {quote : Quote} {content : Text}
    (stays : staysOpen quote content = true) (rest : Text) :
    staysOpen quote (content ++ quote.mark :: rest) = false := by
  fun_induction staysOpen quote content with
  | case1 c others ih =>
      rw [Bool.and_eq_true] at stays
      rw [List.cons_append, List.cons_append, staysOpen, ih stays.2, Bool.and_false]
  | case2 c others _ ih =>
      rw [Bool.and_eq_true] at stays
      exact (staysOpen_of_plain stays.1 _).trans (ih stays.2)
  | case3 => exact staysOpen_of_mark quote rest

/-- The content of a string and its last quote are cut into tokens that are not checked. -/
theorem exists_unchecked_content {words : List Text} {quote : Quote} {content : Text}
    (stays : staysOpen quote content = true) (before : Option Char) (rest : Text) :
    ∃ lexemes, Lexeme.Unchecked lexemes ∧ (Lexeme.source lexemes).length = content.length + 1 ∧
      (scanFrom words (.inLine quote) before (content ++ quote.mark :: rest)).1 =
        lexemes ++ (scanFrom words .code (some quote.mark) rest).1 := by
  induction size : content.length using Nat.strong_induction_on generalizing content before with
  | _ count ih =>
      -- One token of the content is taken off, and the string stays open behind it.
      have onward (kind : TokenKind) {c : Char} {more behind : Text}
          (whole : content = c :: (more ++ behind)) (unchecked : kind.isChecked = false)
          (opened : staysOpen quote behind = true)
          (isStep : (Mode.inLine quote).step words before c
            (more ++ (behind ++ quote.mark :: rest)) = ⟨kind, more.length, .inLine quote⟩) :
          ∃ lexemes, Lexeme.Unchecked lexemes ∧ (Lexeme.source lexemes).length = count + 1 ∧
            (scanFrom words (.inLine quote) before (content ++ quote.mark :: rest)).1 =
              lexemes ++ (scanFrom words .code (some quote.mark) rest).1 := by
        have total : count = more.length + behind.length + 1 := by
          rw [← size, whole, List.length_cons, List.length_append]
        obtain ⟨lexemes, all, length, scanned⟩ :=
          ih behind.length (by omega) opened (c :: more).getLast? rfl
        refine ⟨⟨kind, c :: more⟩ :: lexemes, .cons unchecked all, ?_, ?_⟩
        · rw [Lexeme.source_cons, List.length_append, length, List.length_cons, total]
          omega
        · rw [whole, List.cons_append, List.append_assoc, scanFrom_of_step isStep rfl, scanned]
          rfl
      cases content with
      | nil =>
          have isStep : (Mode.inLine quote).step words before quote.mark ([] ++ rest) =
              ⟨.string, 0, .code⟩ := inLineStep_of_mark quote rest
          exact ⟨[⟨.string, [quote.mark]⟩], .cons rfl (List.forall_mem_nil _), by rw [← size]; rfl,
            scanFrom_of_step isStep rfl⟩
      | cons c others =>
          rcases mark_or_backslash_or_plain quote c with rfl | rfl | plain
          · rw [staysOpen_of_mark] at stays
            cases stays
          · cases others with
            | nil => exact absurd stays (by cases quote <;> decide)
            | cons d behind =>
                rw [staysOpen, Bool.and_eq_true] at stays
                refine onward .escape (show _ = '\\' :: ([d] ++ behind) from rfl) rfl stays.2 ?_
                exact (inLineStep_of_backslash quote _).trans (if_pos stays.1)
          · have run := others.takeWhile_append_dropWhile (p := isPlainIn quote)
            have all : ∀ d ∈ c :: others.takeWhile (isPlainIn quote), isPlainIn quote d = true :=
              List.forall_mem_cons.2 ⟨plain, fun d member => List.mem_takeWhile_imp member⟩
            have stop : ∀ d ∈ (others.dropWhile (isPlainIn quote) ++ quote.mark :: rest).head?,
                isPlainIn quote d = false := by
              intro d first
              rw [List.head?_append, Option.mem_def, Option.or_eq_some_iff] at first
              rcases first with inside | ⟨-, mark⟩
              · exact head?_dropWhile_eq_false others d inside
              · cases mark
                exact isPlainIn_mark quote
            have whole : c :: others = c :: (others.takeWhile (isPlainIn quote) ++
                others.dropWhile (isPlainIn quote)) := by rw [run]
            refine onward .string whole rfl ?_ ?_
            · rwa [whole, ← List.cons_append, staysOpen_append all] at stays
            · refine (inLineStep_of_plain plain _).trans ?_
              rw [countWhile_run (List.forall_mem_cons.1 all).2 stop]

/-- A string that is closed on its line is cut into tokens that are not checked. -/
theorem exists_unchecked_literal {words : List Text} (isWord : ∀ word ∈ words, word.IsWord)
    {quote : Quote} {content rest : Text}
    (closes : IsContent quote content rest) (before : Option Char) :
    ∃ lexemes, Lexeme.Unchecked lexemes ∧ (Lexeme.source lexemes).length = content.length + 2 ∧
      (scanFrom words .code before (quote.mark :: (content ++ quote.mark :: rest))).1 =
        lexemes ++ (scanFrom words .code (some quote.mark) rest).1 := by
  obtain ⟨lexemes, unchecked, length, scanned⟩ :=
    exists_unchecked_content closes.stays (some quote.mark) rest
  have opening : Mode.code.step words before quote.mark ([] ++ (content ++ quote.mark :: rest)) =
      ⟨.string, 0, .inLine quote⟩ := by
    refine (codeStep_of_mark isWord before quote.isWordChar_mark _).trans ?_
    rw [List.nil_append, plainStep_mark, openingStep, closes.single,
      staysOpen_append_mark closes.stays]
    rfl
  have cut := scanFrom_of_step opening rfl
  refine ⟨⟨.string, [quote.mark]⟩ :: lexemes, .cons rfl unchecked, ?_, ?_⟩
  · rw [Lexeme.source_cons, List.length_append, length, List.length_singleton]
    omega
  · rw [List.nil_append] at cut
    exact cut.trans (congrArg (_ :: ·) scanned)

end KeywordBridge
