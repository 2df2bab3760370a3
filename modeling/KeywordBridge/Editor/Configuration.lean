import KeywordBridge.Json.Basic
import KeywordBridge.Program.Indentation

/-!
# The language configuration of an editor

An editor that knows the comments, the brackets and the indentation of a
language can close brackets and quotes as they are typed and can indent new
lines. The two rules of indentation are handed over as patterns; the functions
`asksForIndent` and `asksForOutdent` decide what these patterns match.
-/

namespace KeywordBridge

/-- An opening and a closing mark. -/
structure Pair where
  opening : Text
  closing : Text

/-- Where the closing mark is not added. -/
structure ClosedPair extends Pair where
  notIn : List Text := []

namespace Configuration

/-- What starts a comment that ends with its line. -/
def lineComment : Text := "#"

/-- What encloses a comment of several lines. -/
def blockComment : Pair := ⟨"\"\"\"", "\"\"\""⟩

/-- The brackets. -/
def brackets : List Pair :=
  [⟨"\x7b", "\x7d"⟩, ⟨"[", "]"⟩, ⟨"(", ")"⟩]

/-- The quotes. -/
def quotes : List Pair :=
  [⟨"\"", "\""⟩, ⟨"'", "'"⟩]

/-- The pairs whose closing mark is added when the opening one is typed. -/
def autoClosingPairs : List ClosedPair :=
  brackets.map (⟨·, []⟩) ++
    [⟨⟨"\"", "\""⟩, ["string"]⟩, ⟨⟨"'", "'"⟩, ["string", "comment"]⟩]

/-- The pairs that are put around a selected text. -/
def surroundingPairs : List Pair :=
  brackets ++ quotes

/-- The pattern of the lines after which a deeper line follows. -/
def increaseIndentPattern : Text :=
  "^((?!#).)*:\\s*$"

/-- The pattern of the lines that move back one level. -/
def decreaseIndentPattern : Text :=
  "^\\s*(?:" ++ List.intercalate ['|'] dedentWords ++ ")\\b.*:\\s*$"

end Configuration

/-- The two marks by name. -/
def Pair.toJson (pair : Pair) : Json :=
  .record [("open", .string pair.opening), ("close", .string pair.closing)]

/-- The two marks in a list. -/
def Pair.toArray (pair : Pair) : Json :=
  .array [.string pair.opening, .string pair.closing]

/-- The two marks by name, with the places where the closing one is not added if
there are such places. -/
def ClosedPair.toJson (pair : ClosedPair) : Json :=
  .record ([("open", .string pair.opening), ("close", .string pair.closing)] ++
    if pair.notIn.isEmpty then [] else [("notIn", .texts pair.notIn)])

namespace Configuration

/-- The configuration as an editor takes it. -/
def toJson : Json :=
  .record [
    ("comments", .record [
      ("lineComment", .string lineComment),
      ("blockComment", blockComment.toArray)]),
    ("brackets", .array (brackets.map Pair.toArray)),
    ("autoClosingPairs", .array (autoClosingPairs.map ClosedPair.toJson)),
    ("surroundingPairs", .array (surroundingPairs.map Pair.toJson)),
    ("indentationRules", .record [
      ("increaseIndentPattern", .string increaseIndentPattern),
      ("decreaseIndentPattern", .string decreaseIndentPattern)])]

end Configuration

end KeywordBridge
