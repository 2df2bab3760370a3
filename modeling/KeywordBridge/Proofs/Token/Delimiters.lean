import KeywordBridge.Proofs.Token.Columns
import KeywordBridge.Proofs.Token.Rules

/-!
# Where strings and comments begin and end

A string begins and ends with a quote, and a comment begins with a number sign and ends
with the line. None of these marks belongs to a word. So next to each other, two tokens
of which only one is in a string or a comment never share a word.
-/

namespace KeywordBridge

/-- Is one of the lexemes bounded by a mark where they meet, unless both are code or
both are in a string? -/
def Lexeme.Delimited (first second : Lexeme) : Prop :=
  first.kind.region ≠ second.kind.region →
    Text.isWordSide first.value.getLast? = false ∨ Text.isWordSide second.value.head? = false

/-- What a token does to the region in which it is read. -/
inductive StepRegion (c : Char) (rest : Text) (step : TokenStep) : Mode → Prop
  /-- The token is code in front of code. -/
  | code (region : step.kind.region = .code) (mode : step.mode = .code) : StepRegion c rest step .code
  /-- The token is the first one of a string or a comment. -/
  | opens (mark : isWordChar c = false)
      (goesOn : step.mode.quote?.isSome = true ∧ step.kind.region = .string ∨
        rest.drop step.extra = []) : StepRegion c rest step .code
  | inside {mode : Mode} (string : mode.quote?.isSome = true) (region : step.kind.region = .string)
      (goesOn : step.mode.quote?.isSome = true) : StepRegion c rest step mode
  /-- The token is the last one of a string. -/
  | closes {mode : Mode} (string : mode.quote?.isSome = true) (region : step.kind.region = .string)
      (code : step.mode = .code)
      (ends : Text.isWordSide (c :: rest.take step.extra).getLast? = false ∨
        rest.drop step.extra = []) : StepRegion c rest step mode

/-- The last of two quotes behind a quote is a mark. -/
theorem isWordSide_getLast?_of_triple {quote : Quote} {rest : Text}
    (triple : completesTriple quote rest = true) :
    Text.isWordSide (quote.mark :: rest.take 2).getLast? = false := by
  rw [take_two_of_completesTriple.1 triple]
  exact quote.isWordChar_mark

theorem stepRegion_openingStep (quote : Quote) (rest : Text) :
    StepRegion quote.mark rest (openingStep quote rest) .code := by
  refine .opens quote.isWordChar_mark ?_
  unfold openingStep
  split
  · exact .inl ⟨rfl, rfl⟩
  · split
    · exact .inr List.drop_length
    · exact .inl ⟨rfl, rfl⟩

theorem stepRegion_inLineStep {quote : Quote} (c : Char) (rest : Text) :
    StepRegion c rest (inLineStep quote c rest) (.inLine quote) := by
  rcases mark_or_backslash_or_plain quote c with rfl | rfl | plain
  · rw [inLineStep_of_mark]
    exact .closes rfl rfl rfl (.inl quote.isWordChar_mark)
  · rw [inLineStep_of_backslash]
    split
    · exact .inside rfl rfl rfl
    · exact .closes rfl rfl rfl (.inr List.drop_length)
  · rw [inLineStep_of_plain plain]
    exact .inside rfl rfl rfl

theorem stepRegion_inTripleStep {quote : Quote} (c : Char) (rest : Text) :
    StepRegion c rest (inTripleStep quote c rest) (.inTriple quote) := by
  rcases mark_or_backslash_or_plain quote c with rfl | rfl | plain
  · rw [inTripleStep_of_mark]
    split
    · rename_i triple
      exact .closes rfl rfl rfl (.inl (isWordSide_getLast?_of_triple triple))
    · exact .inside rfl rfl rfl
  · rw [inTripleStep_of_backslash]
    split
    · exact .inside rfl rfl rfl
    · exact .inside rfl rfl rfl
  · rw [inTripleStep_of_plain plain]
    exact .inside rfl rfl rfl

theorem stepRegion_codeToken {words : List Text} {before : Option Char} {c : Char} {rest : Text}
    {step : TokenStep} (oneLine : '\n' ∉ rest) (token : CodeToken words before c rest step) :
    StepRegion c rest step .code := by
  cases token with
  | keyword => exact .code rfl rfl
  | plain _ token =>
      cases token with
      | quote quote mark =>
          subst mark
          exact stepRegion_openingStep quote rest
      | comment sign length ends =>
          rw [commentLength?_of_oneLine oneLine] at ends
          cases ends
          subst sign
          exact .opens (by decide) (.inr List.drop_length)
      | _ => exact .code rfl rfl

theorem stepRegion_step {words : List Text} (isWord : ∀ word ∈ words, word.IsWord) {mode : Mode}
    (known : mode ≠ .blanks) (before : Option Char) {c : Char} {rest : Text}
    (oneLine : '\n' ∉ rest) : StepRegion c rest (mode.step words before c rest) mode := by
  cases mode with
  | code => exact stepRegion_codeToken oneLine (codeToken_codeStep isWord before c rest)
  | inLine quote => exact stepRegion_inLineStep c rest
  | inTriple quote => exact stepRegion_inTripleStep c rest
  | blanks => exact absurd rfl known

theorem StepRegion.region_of_string {c : Char} {rest : Text} {step : TokenStep} {mode : Mode}
    (region : StepRegion c rest step mode) (string : mode.quote?.isSome = true) :
    step.kind.region = .string := by
  cases region with
  | code => exact Bool.noConfusion string
  | opens => exact Bool.noConfusion string
  | inside _ region => exact region
  | closes _ region => exact region

/-- A token is delimited from the token behind it. -/
theorem StepRegion.delimited {c d : Char} {rest behind : Text} {mode : Mode}
    {step next : TokenStep} (first : StepRegion c rest step mode)
    (more : rest.drop step.extra = d :: behind) (second : StepRegion d behind next step.mode) :
    Lexeme.Delimited ⟨step.kind, c :: rest.take step.extra⟩
      ⟨next.kind, d :: behind.take next.extra⟩ := by
  intro differ
  have goesOn (ends : rest.drop step.extra = []) : False := by
    rw [ends] at more
    cases more
  have same (string : step.mode.quote?.isSome = true) (region : step.kind.region = .string) :
      False := by
    rw [region, second.region_of_string string] at differ
    exact differ rfl
  cases first with
  | code region mode =>
      rw [mode] at second
      cases second with
      | code other => exact absurd (region.trans other.symm) differ
      | opens mark => exact .inr mark
      | inside string => exact Bool.noConfusion string
      | closes string => exact Bool.noConfusion string
  | opens _ behind =>
      rcases behind with ⟨string, region⟩ | ends
      · exact (same string region).elim
      · exact (goesOn ends).elim
  | inside _ region string => exact (same string region).elim
  | closes _ _ _ ends => exact .inl (ends.resolve_right goesOn)

/-- The lexemes of a line are delimited from each other. -/
theorem isChain_delimited_scanFrom {words : List Text} (isName : ∀ word ∈ words, word.IsName)
    {mode : Mode} (known : mode ≠ .blanks) (before : Option Char) {text : Text}
    (oneLine : '\n' ∉ text) :
    (scanFrom words mode before text).1.IsChain Lexeme.Delimited := by
  have isWord := isWord_of_isName isName
  fun_induction scanFrom words mode before text with
  | case1 => exact .nil
  | case2 mode before c rest step value others final =>
      rename_i scanned ih
      rw [List.mem_cons, not_or] at oneLine
      have knownBehind := (lexemeKeywords_step isName known before c rest).1
      have oneLineBehind : '\n' ∉ rest.drop step.extra := fun member =>
        oneLine.2 (List.mem_of_mem_drop member)
      have chain := ih knownBehind oneLineBehind
      rw [scanned] at chain
      rw [List.isChain_cons]
      refine ⟨fun second first => ?_, chain⟩
      cases more : rest.drop step.extra with
      | nil =>
          rw [more, scanFrom] at scanned
          cases scanned
          cases first
      | cons d behind =>
          rw [more] at oneLineBehind scanned
          rw [List.mem_cons, not_or] at oneLineBehind
          rw [scanFrom] at scanned
          cases scanned
          cases first
          exact (stepRegion_step isWord known before oneLine.2).delimited more
            (stepRegion_step isWord knownBehind value.getLast? oneLineBehind.2)

/-- Where a string or a comment meets anything else, the line is cut between words. -/
theorem isChain_isCutAt_place {lexemes : List Lexeme} (chain : lexemes.IsChain Lexeme.Delimited)
    (written : ∀ lexeme ∈ lexemes, lexeme.value ≠ []) (front : Text) (number : Int) :
    (Lexeme.place number (front.length + 1) lexemes).IsChain fun first second =>
      first.kind.region ≠ second.kind.region →
        Text.IsCutAt (front ++ Lexeme.source lexemes) (second.column - 1) := by
  induction lexemes generalizing front with
  | nil => exact .nil
  | cons lexeme others ih =>
      rw [List.forall_mem_cons] at written
      rw [List.isChain_cons] at chain
      have behind := ih chain.2 written.2 (front ++ lexeme.value)
      have whole : front ++ Lexeme.source (lexeme :: others) =
          front ++ lexeme.value ++ Lexeme.source others := by
        rw [List.append_assoc]
        rfl
      have column : front.length + 1 + lexeme.value.length = (front ++ lexeme.value).length + 1 := by
        rw [List.length_append, Nat.add_right_comm]
      rw [whole, Lexeme.place, column, List.isChain_cons]
      refine ⟨fun second first => ?_, behind⟩
      cases others with
      | nil => cases first
      | cons next rest =>
          cases first
          intro differ
          have delimited := chain.1 next rfl differ
          rw [Nat.add_sub_cancel, Text.isCutAt_append,
            List.getLast?_append_of_ne_nil _ written.1, Lexeme.source, List.flatMap_cons,
            List.head?_append_of_ne_nil _ (written.2 next List.mem_cons_self)]
          exact delimited

/-- Where a token of a string or a comment meets another token on its line, no word is
cut. -/
theorem Table.isChain_isCutAt_tokenizeLine (table : Table)
    (isName : ∀ word ∈ table.surfaces, word.IsName) {mode : Mode} (start : mode.StartsLine)
    (number : Int) {line : Text} (oneLine : '\n' ∉ line) :
    (table.tokenizeLine mode number line).1.IsChain fun first second =>
      first.kind.region ≠ second.kind.region → line.IsCutAt (second.column - 1) := by
  have chain := isChain_isCutAt_place
    (isChain_delimited_scanFrom isName start.ne_blanks none oneLine)
    (value_ne_nil_of_mem_scanFrom table.surfaces mode none line) [] number
  rw [source_scanFrom] at chain
  exact chain

end KeywordBridge
