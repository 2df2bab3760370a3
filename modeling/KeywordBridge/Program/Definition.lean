import KeywordBridge.Keyword.Table

/-!
# Definitions in program text

A function is introduced by a keyword, a name and an opening parenthesis, a
class by a keyword and a name, and a variable by a name and an equals sign that
is not part of a comparison. Blanks separate the parts. These shapes are
recognised on the text of a single line, without regard to strings and comments.
-/

namespace KeywordBridge

namespace Table

/-- The surface keyword for a target keyword, or the target keyword itself where
the table has none or an empty one. -/
def wordOr (table : Table) (target : Text) : Text :=
  match table.surfaceFor? target with
  | some (first :: others) => first :: others
  | _ => target

/-- The non-empty surface keywords for some target keywords. -/
def wordsFor (table : Table) (targets : List Text) : List Text :=
  (targets.filterMap table.surfaceFor?).filter (!·.isEmpty)

/-- The word that introduces a function. -/
def functionWord (table : Table) : Text :=
  table.wordOr "def"

/-- The word that introduces a class. -/
def classWord (table : Table) : Text :=
  table.wordOr "class"

end Table

/-- The name behind an introducing word at the start of the text, with what
follows it. -/
def introduced? (word text : Text) : Option (Text × Text) := do
  let rest ← Text.dropStart? word text
  let rest ← Text.dropBlanks? rest
  Text.name? rest

/-- The name of the function whose introduction starts the text. -/
def functionHere? (word text : Text) : Option Text := do
  let (name, rest) ← introduced? word text
  if (rest.dropWhile isBlankChar).head? == some '(' then some name else none

/-- The name of the first function introduced in the text behind the character
`before`. The introducing word has to start at a word boundary. -/
def functionFrom? (word : Text) (before : Option Char) : Text → Option Text
  | [] => none
  | c :: rest =>
      let here :=
        if Text.isBoundary before (some c) then functionHere? word (c :: rest) else none
      match here with
      | some name => some name
      | none => functionFrom? word (some c) rest

/-- The name of the first function introduced on the line. -/
def functionName? (word line : Text) : Option Text :=
  functionFrom? word none line

/-- The name of the class introduced behind the blanks at the start of the line.
The introducing word may itself start with blanks. -/
def className? (word : Text) : Text → Option Text
  | [] => none
  | c :: rest =>
      match introduced? word (c :: rest) with
      | some (name, _) => some name
      | none => if isBlankChar c then className? word rest else none

/-- The name of the variable that the line gives a value. -/
def variableName? (line : Text) : Option Text := do
  let (name, rest) ← Text.name? (line.dropWhile isBlankChar)
  match rest.dropWhile isBlankChar with
  | '=' :: after => if after.head? == some '=' then none else some name
  | _ => none

end KeywordBridge
