import KeywordBridge.Text.Basic

/-!
# Indentation

The indentation of a line is the column that its leading spaces and tabs reach,
with a tab stop every four columns. While a program is typed, a line that ends
with a colon asks for a deeper line after it, and a line that goes on with an
alternative or an ending of a block asks for its own indentation to be taken
back.
-/

namespace KeywordBridge

/-- The width of one level of indentation, and the distance of the tab stops. -/
def tabWidth : Nat := 4

/-- The column reached by the spaces and tabs at the start of the text, counting
on from `column`. -/
def indentationFrom (column : Nat) : Text → Nat
  | c :: rest =>
      if c = ' ' then indentationFrom (column + 1) rest
      else if c = '\t' then indentationFrom (column + (tabWidth - column % tabWidth)) rest
      else column
  | [] => column

/-- The column that the leading spaces and tabs of a line reach. -/
def indentation (line : Text) : Nat :=
  indentationFrom 0 line

/-- Does a deeper line follow? The line ends with a colon, blanks aside, and no
number sign stands in it. -/
def asksForIndent (line : Text) : Bool :=
  let content := line.trimEnd
  content.getLast? == some ':' && content.dropLast.all fun c => c != '#' && c != '\n'

/-- The words that go on with a block at the depth of its opening. -/
def dedentWords : List Text :=
  ["okanye_ukuba", "enye", "ngaphandle", "ekugqibeleni"]

/-- Should the line move back one level? It starts with one of the continuing
words, blanks aside, and ends with a colon. -/
def asksForOutdent (line : Text) : Bool :=
  let content := line.dropWhile isBlankChar
  dedentWords.any fun word =>
    match Text.dropStart? word content with
    | none => false
    | some rest =>
        let ending := Text.trimEnd rest
        Text.isBoundary word.getLast? rest.head? &&
          ending.getLast? == some ':' && ending.dropLast.all (· != '\n')

end KeywordBridge
