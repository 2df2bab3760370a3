import KeywordBridge.Keyword.Segment
import KeywordBridge.Keyword.Table
import KeywordBridge.Token.Basic

/-!
# Cutting a line into tokens

At every position the mode, the characters that follow and, for keywords, the
character in front decide what the next token is: its kind, how many characters
follow its first one, and the mode behind it. A token therefore always has a
first character, the scan always moves on, and the tokens of a line make up the
line, whatever the rules below decide.

In code, keywords come before numbers, numbers before strings, and a name is
tried last. A quote that is not followed on its line by a closing quote turns the
rest of the line into a broken string.
-/

namespace KeywordBridge

/-- How the next token goes on behind its first character. -/
structure TokenStep where
  kind : TokenKind
  /-- How many characters belong to the token besides its first. -/
  extra : Nat
  /-- The mode behind the token. -/
  mode : Mode

namespace Text

/-- The number of characters at the start that satisfy `p`. -/
def countWhile (p : Char → Bool) (text : Text) : Nat :=
  (text.takeWhile p).length

end Text

/-! ## Numbers -/

/-- The length of an exponent: its mark, an optional sign and at least one
digit. It is zero where there is none. -/
def exponentLength : Text → Nat
  | mark :: rest =>
      if mark == 'e' || mark == 'E' then
        match rest with
        | sign :: unsigned =>
            if sign == '-' || sign == '+' then
              match Text.countWhile isDecimalDigit unsigned with
              | 0 => 0
              | digits => digits + 2
            else
              match Text.countWhile isDecimalDigit rest with
              | 0 => 0
              | digits => digits + 1
        | [] => 0
      else 0
  | [] => 0

/-- The length of a number with a fraction: optional digits, a point, at least
one digit and an optional exponent. It is zero where there is none. -/
def floatLength (text : Text) : Nat :=
  let whole := Text.countWhile isDecimalDigit text
  match text.drop whole with
  | '.' :: rest =>
      match Text.countWhile isDecimalDigit rest with
      | 0 => 0
      | fraction => whole + 1 + fraction + exponentLength (rest.drop fraction)
  | _ => 0

/-! ## Strings -/

/-- Does the line end without closing a string that stands open before this
text? A backslash takes the next character with it, unless that is a line feed
or missing. -/
def staysOpen (quote : Quote) : Text → Bool
  | '\\' :: c :: rest => c != '\n' && staysOpen quote rest
  | c :: rest => c != quote.mark && c != '\\' && staysOpen quote rest
  | [] => true

/-- Do two more quotes follow, so that a triple quote stands here? -/
def completesTriple (quote : Quote) (rest : Text) : Bool :=
  [quote.mark, quote.mark].isPrefixOf rest

/-- Is the character plain inside a string: neither its quote nor a backslash? -/
def isPlainIn (quote : Quote) (c : Char) : Bool :=
  c != quote.mark && c != '\\'

/-- Does the character that a backslash would take with it follow? -/
def hasEscapable : Text → Bool
  | c :: _ => c != '\n'
  | [] => false

/-- The token of a quote in code. -/
def openingStep (quote : Quote) (rest : Text) : TokenStep :=
  if completesTriple quote rest then ⟨.string, 2, .inTriple quote⟩
  else if staysOpen quote rest then ⟨.brokenString, rest.length, .code⟩
  else ⟨.string, 0, .inLine quote⟩

/-- The next token inside a string that ends on its line. -/
def inLineStep (quote : Quote) (c : Char) (rest : Text) : TokenStep :=
  if c == quote.mark then ⟨.string, 0, .code⟩
  else if c == '\\' then
    if hasEscapable rest then ⟨.escape, 1, .inLine quote⟩
    else ⟨.brokenString, rest.length, .code⟩
  else ⟨.string, Text.countWhile (isPlainIn quote) rest, .inLine quote⟩

/-- The next token inside a triple-quoted string. -/
def inTripleStep (quote : Quote) (c : Char) (rest : Text) : TokenStep :=
  if c == quote.mark then
    if completesTriple quote rest then ⟨.string, 2, .code⟩
    else ⟨.string, 0, .inTriple quote⟩
  else if c == '\\' then
    if hasEscapable rest then ⟨.escape, 1, .inTriple quote⟩
    else ⟨.string, 0, .inTriple quote⟩
  else ⟨.string, Text.countWhile (isPlainIn quote) rest, .inTriple quote⟩

/-! ## Blanks, comments and code -/

/-- The blanks that separate tokens on a line. -/
def separates (c : Char) : Bool :=
  c == ' ' || c == '\t' || c == '\r' || c == '\x0c' || c == '\x0b'

/-- The characters that operators are made of. -/
def isOperatorChar (c : Char) : Bool :=
  ("=><!~?:&|+-*/^%.,;@" : Text).contains c

/-- The brackets. -/
def isBracket (c : Char) : Bool :=
  ("\x7b\x7d()[]" : Text).contains c

/-- The length of a comment behind its number sign. A comment runs to the end of
the text or to a line feed that ends it; any other line feed makes the number
sign no comment. -/
def commentLength? (rest : Text) : Option Nat :=
  let length := Text.countWhile (· != '\n') rest
  if rest.length ≤ length + 1 then some length else none

/-- The token of blanks or of a comment, in the mode that holds around it. -/
def blankStep? (mode : Mode) (c : Char) (rest : Text) : Option TokenStep :=
  if separates c then some ⟨.white, Text.countWhile separates rest, mode⟩
  else if c == '#' then (commentLength? rest).map fun length => ⟨.comment, length, mode⟩
  else none

/-- The next token where only blanks and comments are expected. -/
def blanksStep (c : Char) (rest : Text) : TokenStep :=
  (blankStep? .blanks c rest).getD ⟨.invalid, 0, .blanks⟩

/-- The next token in code at a position where no keyword stands. -/
def plainStep (c : Char) (rest : Text) : TokenStep :=
  match floatLength (c :: rest) with
  | extra + 1 => ⟨.float, extra, .code⟩
  | 0 =>
      if isDecimalDigit c then ⟨.number, Text.countWhile isDecimalDigit rest, .code⟩
      else if c == Quote.double.mark then openingStep .double rest
      else if c == Quote.single.mark then openingStep .single rest
      else
        match blankStep? .code c rest with
        | some step => step
        | none =>
            if isBracket c then ⟨.bracket, 0, .code⟩
            else if isOperatorChar c then
              ⟨.operator, Text.countWhile isOperatorChar rest, .code⟩
            else if Text.startsName c then
              ⟨.identifier, Text.countWhile isWordChar rest, .code⟩
            else ⟨.invalid, 0, .code⟩

/-- The next token in code. -/
def codeStep (words : List Text) (before : Option Char) (c : Char) (rest : Text) : TokenStep :=
  match keywordAt? words before (c :: rest) with
  | some (_ :: others) => ⟨.keyword, others.length, .code⟩
  | _ => plainStep c rest

/-- The next token in any mode. -/
def Mode.step (words : List Text) (before : Option Char) (c : Char) (rest : Text) :
    Mode → TokenStep
  | .code => codeStep words before c rest
  | .inLine quote => inLineStep quote c rest
  | .inTriple quote => inTripleStep quote c rest
  | .blanks => blanksStep c rest

/-! ## Lines -/

/-- The lexemes of a text that starts in the given mode behind the character
`before`, with the mode at its end. -/
def scanFrom (words : List Text) (mode : Mode) (before : Option Char) :
    Text → List Lexeme × Mode
  | [] => ([], mode)
  | c :: rest =>
      let step := mode.step words before c rest
      let value := c :: rest.take step.extra
      let (others, final) :=
        scanFrom words step.mode value.getLast? (rest.drop step.extra)
      (⟨step.kind, value⟩ :: others, final)
termination_by text => text.length
decreasing_by simp only [List.length_cons, List.length_drop]; omega

/-- The lexemes of a line make up the line. -/
theorem source_scanFrom (words : List Text) (mode : Mode) (before : Option Char) (text : Text) :
    Lexeme.source (scanFrom words mode before text).1 = text := by
  fun_induction scanFrom words mode before text with
  | case1 => rfl
  | case2 mode before c rest step value others final scanned ih =>
      rw [scanned] at ih
      simp only [Lexeme.source, List.flatMap_cons] at ih ⊢
      rw [ih]
      simp [value, List.take_append_drop]

/-- No lexeme is empty. -/
theorem value_ne_nil_of_mem_scanFrom (words : List Text) (mode : Mode) (before : Option Char)
    (text : Text) : ∀ lexeme ∈ (scanFrom words mode before text).1, lexeme.value ≠ [] := by
  fun_induction scanFrom words mode before text with
  | case1 => simp
  | case2 mode before c rest step value others final scanned ih =>
      rw [scanned] at ih
      simp only [List.mem_cons, forall_eq_or_imp]
      exact ⟨by simp [value], ih⟩

namespace Table

/-- The lexemes of a line that starts in the given mode, with the mode in which
the next line starts. -/
def scanLine (table : Table) (mode : Mode) (line : Text) : List Lexeme × Mode :=
  let (lexemes, final) := scanFrom table.surfaces mode none line
  (lexemes, final.afterLine)

/-- The tokens of a line with a given number. -/
def tokenizeLine (table : Table) (mode : Mode) (number : Int) (line : Text) :
    List Token × Mode :=
  let (lexemes, next) := table.scanLine mode line
  (Lexeme.place number 1 lexemes, next)

end Table

end KeywordBridge
