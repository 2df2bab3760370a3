import KeywordBridge.Text.CodePoint
import KeywordBridge.Text.Hexadecimal
import KeywordBridge.Text.Printable

/-!
# Quoted names

A message shows a name between quotes so that the reader sees where it starts
and ends. Single quotes are used, unless the name holds a single quote and no
double quote. Inside the quotes the quote itself and the backslash are escaped,
the tab, line feed and carriage return have short escapes, and every other
character that is not printable is written by its code point. So is a surrogate,
where code points are shown that need not be characters.
-/

namespace KeywordBridge

namespace Text

/-- The quote that a name is shown with. -/
def quoteMark (name : Text) : Char :=
  if name.contains '\'' && !name.contains '"' then '"' else '\''

/-- How one character is written inside quotes. -/
def quotedChar (mark c : Char) : Text :=
  if c == mark || c == '\\' then ['\\', c]
  else if c == '\t' then "\\t"
  else if c == '\n' then "\\n"
  else if c == '\r' then "\\r"
  else if isPrintable c then [c]
  else if c.toNat < 0x100 then ['\\', 'x'] ++ hexDigits 2 c.toNat
  else if c.toNat < 0x10000 then ['\\', 'u'] ++ hexDigits 4 c.toNat
  else ['\\', 'U'] ++ hexDigits 8 c.toNat

/-- A name between quotes. -/
def quoted (name : Text) : Text :=
  let mark := quoteMark name
  mark :: name.flatMap (quotedChar mark) ++ [mark]

/-- How a surrogate is written: by its number. -/
def escapedSurrogate (offset : Fin 2048) : Text :=
  ['\\', 'u'] ++ hexDigits 4 (CodePoint.surrogate offset).value

/-- How one code point is written inside quotes. -/
def quotedPoint (mark : Char) : CodePoint → Text
  | .char c => quotedChar mark c
  | .surrogate offset => escapedSurrogate offset

/-- Code points between quotes. -/
def quotedPoints (points : List CodePoint) : Text :=
  let mark := quoteMark (ofPoints points)
  mark :: points.flatMap (quotedPoint mark) ++ [mark]

/-- Code points for a reader who can be sent characters alone. -/
def escapedPoints (points : List CodePoint) : Text :=
  points.flatMap fun
    | .char c => [c]
    | .surrogate offset => escapedSurrogate offset

/-- A text is shown alike as a name and as code points. -/
theorem quotedPoints_toPoints (text : Text) : quotedPoints text.toPoints = text.quoted := by
  unfold quotedPoints
  rw [ofPoints_toPoints]
  simp [quoted, toPoints, List.flatMap_map, quotedPoint]

end Text

end KeywordBridge
