import KeywordBridge.Proofs.Token.Lossless
import KeywordBridge.Proofs.Token.Recognition
import KeywordBridge.Proofs.Token.Rules

/-!
# The string literals of a program

Where the strings of a program begin and end can be told from its tokens alone.
Outside a string, a string token is a quote that opens one. The string ends with the
next token that is this quote again, or with the escape that the end of the line cuts
off. So on the way from token to token it is enough to remember which quote is open,
and this is what the mode of the scan says as well.
-/

namespace KeywordBridge

namespace Token

/-- Is all of the token in front of the place with this line and column? -/
def EndsBy (token : Token) (line : Int) (column : Nat) : Prop :=
  token.line < line ∨ token.line = line ∧ token.endColumn ≤ column

/-- Does the place with this line and column lie between two characters of the
token? -/
def IsCutAt (token : Token) (line : Int) (column : Nat) : Prop :=
  token.line = line ∧ token.column < column ∧ column < token.endColumn

/-- Does the token end the string that `opening` opens? It is the same quote again, or
the escape that is cut off by the end of the line of a string that had to end there. -/
def Closes (token opening : Token) : Prop :=
  token.kind = .brokenString ∨ token.kind = .string ∧ token.value = opening.value

instance (token : Token) (line : Int) (column : Nat) : Decidable (token.EndsBy line column) :=
  inferInstanceAs (Decidable (_ ∨ _ ∧ _))

instance (token : Token) (line : Int) (column : Nat) : Decidable (token.IsCutAt line column) :=
  inferInstanceAs (Decidable (_ ∧ _ ∧ _))

instance (token opening : Token) : Decidable (token.Closes opening) :=
  inferInstanceAs (Decidable (_ ∨ _ ∧ _))

/-- The opening of the string that is open behind a token, if `opened` is the one that
is open in front of it. -/
def openedBehind (opened : Option Token) (token : Token) : Option Token :=
  match opened with
  | none => if token.kind = .string then some token else none
  | some opening => if token.Closes opening then none else some opening

end Token

/-- A string of a program. -/
structure StringLiteral where
  /-- The quote that opens the string. -/
  opening : Token
  /-- The token that ends the string, if the program does not end first. -/
  closing : Option Token

namespace StringLiteral

/-- The strings among consecutive tokens, where `opened` is the opening of a string that
is open in front of them. -/
def among : (opened : Option Token) → List Token → List StringLiteral
  | none, [] => []
  | some opening, [] => [⟨opening, none⟩]
  | none, token :: rest => among (if token.kind = .string then some token else none) rest
  | some opening, token :: rest =>
      if token.Closes opening then ⟨opening, some token⟩ :: among none rest
      else among (some opening) rest

/-- Does a place lie inside the string: behind its opening quote and not behind the
token that ends it? -/
def Encloses (literal : StringLiteral) (line : Int) (column : Nat) : Prop :=
  literal.opening.EndsBy line column ∧
    ∀ token ∈ literal.closing, ¬ token.EndsBy line column

instance (literal : StringLiteral) (line : Int) (column : Nat) :
    Decidable (literal.Encloses line column) :=
  inferInstanceAs (Decidable (_ ∧ _))

/-! ## Strings and the tokens in front of a place -/

/-- The string that is open in front of some tokens ends among them if it ends. -/
theorem exists_opening (opening : Token) (tokens : List Token) :
    ∃ literal ∈ among (some opening) tokens, literal.opening = opening ∧
      ∀ token ∈ literal.closing, token ∈ tokens := by
  induction tokens with
  | nil => exact ⟨⟨opening, none⟩, List.mem_cons_self, rfl, fun token closing => by cases closing⟩
  | cons token rest ih =>
      by_cases closes : token.Closes opening
      · rw [among, if_pos closes]
        refine ⟨⟨opening, some token⟩, List.mem_cons_self, rfl, fun other closing => ?_⟩
        cases closing
        exact List.mem_cons_self
      · rw [among, if_neg closes]
        obtain ⟨literal, member, same, closing⟩ := ih
        exact ⟨literal, member, same, fun other ends => List.mem_cons_of_mem token (closing other ends)⟩

/-- A string opens among the tokens unless it is open in front of them. -/
theorem opening_mem {opened : Option Token} {tokens : List Token} {literal : StringLiteral}
    (member : literal ∈ among opened tokens) :
    opened = some literal.opening ∨ literal.opening ∈ tokens := by
  induction tokens generalizing opened with
  | nil =>
      cases opened with
      | none => cases member
      | some opening =>
          obtain rfl := List.mem_singleton.1 member
          exact .inl rfl
  | cons token rest ih =>
      cases opened with
      | none =>
          rw [among] at member
          rcases ih member with here | later
          · split at here
            · cases here
              exact .inr List.mem_cons_self
            · cases here
          · exact .inr (List.mem_cons_of_mem token later)
      | some opening =>
          by_cases closes : token.Closes opening
          · rw [among, if_pos closes] at member
            rcases List.mem_cons.1 member with rfl | behind
            · exact .inl rfl
            · rcases ih behind with here | later
              · cases here
              · exact .inr (List.mem_cons_of_mem token later)
          · rw [among, if_neg closes] at member
            rcases ih member with here | later
            · exact .inl here
            · exact .inr (List.mem_cons_of_mem token later)

theorem among_append_subset (opened : Option Token) (front back : List Token) :
    among (front.foldl Token.openedBehind opened) back ⊆ among opened (front ++ back) := by
  induction front generalizing opened with
  | nil => exact fun literal member => member
  | cons token others ih =>
      intro literal member
      have behind := ih _ member
      cases opened with
      | none => exact behind
      | some opening =>
          rw [List.cons_append, among]
          by_cases closes : token.Closes opening
          · rw [if_pos closes]
            rw [Token.openedBehind, if_pos closes] at behind
            exact List.mem_cons_of_mem _ behind
          · rw [if_neg closes]
            rw [Token.openedBehind, if_neg closes] at behind
            exact behind

/-- A string token that no string is open in front of opens a string. -/
theorem exists_opening_of_split {opened : Option Token} {front back : List Token} {token : Token}
    (outside : front.foldl Token.openedBehind opened = none) (string : token.kind = .string) :
    ∃ literal ∈ among opened (front ++ token :: back), literal.opening = token := by
  obtain ⟨literal, member, same, -⟩ := exists_opening token back
  refine ⟨literal, among_append_subset opened front (token :: back) ?_, same⟩
  rw [outside, among, if_pos string]
  exact member

/-- A place lies inside a string exactly if a string is open behind the tokens that end
in front of the place. -/
theorem exists_encloses_iff {line : Int} {column : Nat} {ended ahead : List Token}
    (inFront : ∀ token ∈ ended, token.EndsBy line column)
    (behind : ∀ token ∈ ahead, ¬ token.EndsBy line column) {opened : Option Token}
    (openedInFront : ∀ opening ∈ opened, opening.EndsBy line column) :
    (∃ literal ∈ among opened (ended ++ ahead), literal.Encloses line column) ↔
      (ended.foldl Token.openedBehind opened).isSome = true := by
  induction ended generalizing opened with
  | nil =>
      cases opened with
      | none =>
          refine iff_of_false ?_ Bool.false_ne_true
          rintro ⟨literal, member, opens, -⟩
          rcases opening_mem member with none | later
          · cases none
          · exact behind literal.opening later opens
      | some opening =>
          obtain ⟨literal, member, same, closing⟩ := exists_opening opening ahead
          refine iff_of_true ⟨literal, member, ?_, ?_⟩ rfl
          · rw [same]
            exact openedInFront opening rfl
          · exact fun token ends => behind token (closing token ends)
  | cons token others ih =>
      rw [List.forall_mem_cons] at inFront
      rw [List.cons_append, List.foldl_cons]
      cases opened with
      | none =>
          refine ih inFront.2 fun opening opens => ?_
          split at opens
          · cases opens
            exact inFront.1
          · cases opens
      | some opening =>
          by_cases closes : token.Closes opening
          · rw [among, if_pos closes, Token.openedBehind, if_pos closes,
              ← ih inFront.2 (by simp)]
            constructor
            · rintro ⟨literal, member, encloses⟩
              rcases List.mem_cons.1 member with rfl | later
              · exact absurd inFront.1 (encloses.2 token rfl)
              · exact ⟨literal, later, encloses⟩
            · rintro ⟨literal, member, encloses⟩
              exact ⟨literal, List.mem_cons_of_mem _ member, encloses⟩
          · rw [among, if_neg closes, Token.openedBehind, if_neg closes]
            exact ih inFront.2 openedInFront

end StringLiteral

/-! ## The mode knows the open string -/

/-- The quote that ends the string which a mode lies in. -/
def Mode.delimiter? : Mode → Option Text
  | inLine quote => some [quote.mark]
  | inTriple quote => some [quote.mark, quote.mark, quote.mark]
  | code | blanks => none

/-- Is `opened` the opening of the string that the mode lies in? -/
def Mode.IsOpenedBy (mode : Mode) (opened : Option Token) : Prop :=
  opened.map Token.value = mode.delimiter?

theorem Mode.isOpenedBy_code {mode : Mode} (code : mode.delimiter? = none)
    {opened : Option Token} : mode.IsOpenedBy opened ↔ opened = none := by
  rw [IsOpenedBy, code, Option.map_eq_none_iff]

section

variable (number : Int) (column : Nat)

theorem isOpenedBy_openingStep (quote : Quote) (rest : Text) :
    let step := openingStep quote rest
    step.mode.IsOpenedBy (Token.openedBehind none
      ⟨step.kind, quote.mark :: rest.take step.extra, number, column⟩) := by
  unfold openingStep
  split
  · rename_i triple
    show some (quote.mark :: rest.take 2) = _
    rw [take_two_of_completesTriple.1 triple]
    rfl
  · split
    · rfl
    · rfl

theorem isOpenedBy_codeStep (words : List Text) (before : Option Char) (c : Char) (rest : Text) :
    let step := codeStep words before c rest
    step.mode.IsOpenedBy (Token.openedBehind none
      ⟨step.kind, c :: rest.take step.extra, number, column⟩) := by
  unfold codeStep
  split
  · rfl
  · have token := plainToken_plainStep c rest
    generalize plainStep c rest = step at token ⊢
    cases token with
    | quote quote mark =>
        rw [mark]
        exact isOpenedBy_openingStep number column quote rest
    | _ => rfl

theorem isOpenedBy_blanksStep (c : Char) (rest : Text) :
    let step := blanksStep c rest
    step.mode.IsOpenedBy (Token.openedBehind none
      ⟨step.kind, c :: rest.take step.extra, number, column⟩) := by
  unfold blanksStep blankStep?
  split
  · rfl
  · split
    · cases commentLength? rest with
      | none => rfl
      | some length => rfl
    · rfl

theorem openedBehind_of_closes {opening token : Token} (closes : token.Closes opening) :
    Token.openedBehind (some opening) token = none :=
  if_pos closes

theorem openedBehind_of_other {opening token : Token} (whole : token.kind ≠ .brokenString)
    (other : token.value ≠ opening.value) :
    Token.openedBehind (some opening) token = some opening := by
  refine if_neg ?_
  rintro (broken | ⟨-, same⟩)
  · exact whole broken
  · exact other same

theorem isOpenedBy_inLineStep (quote : Quote) (c : Char) (rest : Text) {opening : Token}
    (opens : opening.value = [quote.mark]) :
    let step := inLineStep quote c rest
    step.mode.IsOpenedBy (Token.openedBehind (some opening)
      ⟨step.kind, c :: rest.take step.extra, number, column⟩) := by
  have stays (kind : TokenKind) (text : Text) (whole : kind ≠ .brokenString)
      (other : c ≠ quote.mark) : (Mode.inLine quote).IsOpenedBy
        (Token.openedBehind (some opening) ⟨kind, c :: text, number, column⟩) := by
    rw [openedBehind_of_other whole]
    · exact congrArg some opens
    · rw [opens]
      exact fun same => other (List.cons.inj same).1
  rcases mark_or_backslash_or_plain quote c with rfl | rfl | plain
  · rw [inLineStep_of_mark]
    have closes : Token.Closes ⟨.string, [quote.mark], number, column⟩ opening :=
      .inr ⟨rfl, opens.symm⟩
    exact (Mode.isOpenedBy_code rfl).2 (openedBehind_of_closes closes)
  · rw [inLineStep_of_backslash]
    split
    · exact stays .escape _ TokenKind.noConfusion quote.mark_ne_backslash.symm
    · have closes : Token.Closes
          ⟨.brokenString, '\\' :: rest.take rest.length, number, column⟩ opening := .inl rfl
      exact (Mode.isOpenedBy_code rfl).2 (openedBehind_of_closes closes)
  · rw [inLineStep_of_plain plain]
    exact stays .string _ TokenKind.noConfusion (isPlainIn_iff.1 plain).1

theorem isOpenedBy_inTripleStep (quote : Quote) (c : Char) (rest : Text) {opening : Token}
    (opens : opening.value = [quote.mark, quote.mark, quote.mark]) :
    let step := inTripleStep quote c rest
    step.mode.IsOpenedBy (Token.openedBehind (some opening)
      ⟨step.kind, c :: rest.take step.extra, number, column⟩) := by
  have stays (kind : TokenKind) (text : Text) (whole : kind ≠ .brokenString)
      (other : c :: text ≠ [quote.mark, quote.mark, quote.mark]) :
      (Mode.inTriple quote).IsOpenedBy
        (Token.openedBehind (some opening) ⟨kind, c :: text, number, column⟩) := by
    rw [openedBehind_of_other whole]
    · exact congrArg some opens
    · rw [opens]
      exact other
  rcases mark_or_backslash_or_plain quote c with rfl | rfl | plain
  · rw [inTripleStep_of_mark]
    split
    · rename_i triple
      have closes : Token.Closes ⟨.string, quote.mark :: rest.take 2, number, column⟩ opening := by
        refine .inr ⟨rfl, ?_⟩
        rw [opens, take_two_of_completesTriple.1 triple]
      exact (Mode.isOpenedBy_code rfl).2 (openedBehind_of_closes closes)
    · exact stays .string [] TokenKind.noConfusion (by simp)
  · rw [inTripleStep_of_backslash]
    split
    · exact stays .escape _ TokenKind.noConfusion fun same =>
        quote.mark_ne_backslash (List.cons.inj same).1.symm
    · exact stays .string [] TokenKind.noConfusion (by simp)
  · rw [inTripleStep_of_plain plain]
    exact stays .string _ TokenKind.noConfusion fun same =>
      (isPlainIn_iff.1 plain).1 (List.cons.inj same).1

/-- Behind every token, the string that is open is the one that the mode lies in. -/
theorem isOpenedBy_step (words : List Text) (before : Option Char) (c : Char) (rest : Text)
    {mode : Mode} {opened : Option Token} (opens : mode.IsOpenedBy opened) :
    let step := mode.step words before c rest
    step.mode.IsOpenedBy (Token.openedBehind opened
      ⟨step.kind, c :: rest.take step.extra, number, column⟩) := by
  cases mode with
  | code =>
      obtain rfl := (Mode.isOpenedBy_code rfl).1 opens
      exact isOpenedBy_codeStep number column words before c rest
  | blanks =>
      obtain rfl := (Mode.isOpenedBy_code rfl).1 opens
      exact isOpenedBy_blanksStep number column c rest
  | inLine quote =>
      obtain ⟨opening, rfl, value⟩ := Option.map_eq_some_iff.1 opens
      exact isOpenedBy_inLineStep number column quote c rest value
  | inTriple quote =>
      obtain ⟨opening, rfl, value⟩ := Option.map_eq_some_iff.1 opens
      exact isOpenedBy_inTripleStep number column quote c rest value

/-- The same holds behind all tokens of a text. -/
theorem isOpenedBy_scanFrom (words : List Text) (mode : Mode) (before : Option Char) (text : Text)
    {opened : Option Token} (opens : mode.IsOpenedBy opened) :
    (scanFrom words mode before text).2.IsOpenedBy
      ((Lexeme.place number column (scanFrom words mode before text).1).foldl
        Token.openedBehind opened) := by
  fun_induction scanFrom words mode before text generalizing opened column with
  | case1 => exact opens
  | case2 mode before c rest step value others final =>
      rename_i scanned ih
      rw [scanned] at ih
      exact ih _ (isOpenedBy_step number column words before c rest opens)

end

/-- Behind whole lines, the string that is open is the one in which the next line
starts. -/
theorem Table.HasWordKeywords.isOpenedBy_modeAfter {table : Table}
    (words : table.HasWordKeywords) {number : Nat} {mode : Mode} (start : mode.StartsLine)
    {lines : List Text}
    (oneLine : ∀ line ∈ lines, '\n' ∉ line.dropReturns) {opened : Option Token}
    (opens : mode.IsOpenedBy opened) :
    (table.modeAfter mode lines).IsOpenedBy
      ((table.tokenizeFrom number mode lines).foldl Token.openedBehind opened) := by
  induction lines generalizing number mode opened with
  | nil => exact opens
  | cons line rest ih =>
      rw [List.forall_mem_cons] at oneLine
      have next := words.startsLine_scanLine start oneLine.1
      have here := isOpenedBy_scanFrom number 1 table.surfaces mode none line.dropReturns opens
      rw [← words.scanLine_eq start oneLine.1] at here
      rw [tokenizeFrom, List.foldl_append]
      exact ih next oneLine.2 here

end KeywordBridge
