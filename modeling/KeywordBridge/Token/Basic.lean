import KeywordBridge.Text.Quoted

/-!
# Tokens

A line of a program is cut into tokens for display and for the checks that have
to tell code from strings and comments. Between two lines only the mode is
remembered, which tells whether a line starts inside a string that runs over
several lines.
-/

namespace KeywordBridge

/-- What a token is. -/
inductive TokenKind where
  | keyword
  | float
  | number
  | string
  | escape
  /-- A string that its line does not close, from its first quote or from the
  escape that is cut off by the end of the line. -/
  | brokenString
  | comment
  | operator
  | bracket
  | identifier
  | white
  /-- A character that starts no token. -/
  | invalid
deriving DecidableEq

/-- The public name of a kind, which a theme may refer to. -/
def TokenKind.name : TokenKind → Text
  | keyword => "keyword"
  | float => "number.float"
  | number => "number"
  | string => "string"
  | escape => "string.escape"
  | brokenString => "string.invalid"
  | comment => "comment"
  | operator => "operator"
  | bracket => "delimiter.bracket"
  | identifier => "identifier"
  | white => "white"
  | invalid => "invalid"

/-- The quotes that delimit strings. -/
inductive Quote where
  | double
  | single
deriving DecidableEq

/-- The character that a quote is written with. -/
def Quote.mark : Quote → Char
  | double => '"'
  | single => '\''

/-- What the characters at a position belong to. -/
inductive Mode where
  | code
  /-- Inside a string that ends on its line. -/
  | inLine (quote : Quote)
  /-- Inside a string between triple quotes, which may run over several lines. -/
  | inTriple (quote : Quote)
  /-- Where only blanks and comments are expected. -/
  | blanks
deriving DecidableEq

namespace Mode

/-- The public name of a mode. -/
def name : Mode → Text
  | code => "root"
  | inLine .double => "string_double"
  | inLine .single => "string_single"
  | inTriple .double => "string_triple_double"
  | inTriple .single => "string_triple_single"
  | blanks => "whitespace"

/-- All modes. -/
def all : List Mode :=
  [code, inLine .double, inLine .single, inTriple .double, inTriple .single, blanks]

/-- The mode with a given name. -/
def ofName? (name : Text) : Option Mode :=
  all.find? (·.name == name)

/-- The complaint about a name that no mode has. -/
def unknownNameMessage (name : Text) : Text :=
  name.quoted ++ " is not a valid State"

/-- Every mode is found by its name. -/
theorem ofName?_name (mode : Mode) : ofName? mode.name = some mode := by
  cases mode with
  | code => decide
  | blanks => decide
  | inLine quote => cases quote <;> decide
  | inTriple quote => cases quote <;> decide

/-- The mode in which the next line starts: only a triple-quoted string goes on
there. -/
def afterLine : Mode → Mode
  | inLine _ => code
  | mode => mode

/-- Is this the mode of a triple-quoted string? -/
def isTriple : Mode → Bool
  | inTriple _ => true
  | _ => false

end Mode

/-- A piece of a line with its kind. -/
structure Lexeme where
  kind : TokenKind
  value : Text
deriving DecidableEq

/-- A lexeme with its place in the program. Lines and columns count from one. -/
structure Token where
  kind : TokenKind
  value : Text
  line : Int
  column : Nat
deriving DecidableEq

/-- The column behind the last character of the token. -/
def Token.endColumn (token : Token) : Nat :=
  token.column + token.value.length

namespace Lexeme

/-- The tokens of consecutive lexemes, the first of which starts at `column`. -/
def place (line : Int) : (column : Nat) → List Lexeme → List Token
  | _, [] => []
  | column, lexeme :: rest =>
      ⟨lexeme.kind, lexeme.value, line, column⟩
        :: place line (column + lexeme.value.length) rest

/-- The text that consecutive lexemes cover. -/
def source (lexemes : List Lexeme) : Text :=
  lexemes.flatMap (·.value)

/-- Placing lexemes changes neither their kinds nor their values. -/
theorem place_values (line : Int) (column : Nat) (lexemes : List Lexeme) :
    (place line column lexemes).map (fun token => (⟨token.kind, token.value⟩ : Lexeme))
      = lexemes := by
  induction lexemes generalizing column with
  | nil => rfl
  | cons lexeme rest ih => simp [place, ih]

end Lexeme

end KeywordBridge
