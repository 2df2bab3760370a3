import KeywordBridge.Json.Basic

/-!
# Writing JSON

A value is written either on one line or laid out with one item a line and an
indentation of two spaces for every level. Characters are written as they are;
only the quote, the backslash, the control characters below the space and
surrogates that stand alone are escaped.
-/

namespace KeywordBridge

namespace Json

/-- How one character is written inside a string. -/
def writtenChar (c : Char) : Text :=
  if c == '"' then "\\\""
  else if c == '\\' then "\\\\"
  else if c == '\n' then "\\n"
  else if c == '\r' then "\\r"
  else if c == '\t' then "\\t"
  else if c == '\x08' then "\\b"
  else if c == '\x0c' then "\\f"
  else if c.toNat < 0x20 then ['\\', 'u'] ++ Text.hexDigits 4 c.toNat
  else [c]

/-- How one code point is written inside a string. -/
def writtenPoint : CodePoint → Text
  | .char c => writtenChar c
  | .surrogate offset =>
      ['\\', 'u'] ++ Text.hexDigits 4 (CodePoint.surrogate offset).value

/-- Code points as a JSON string. -/
def writtenString (points : List CodePoint) : Text :=
  '"' :: points.flatMap writtenPoint ++ ['"']

/-- A double as JSON, with the words for the values that are not finite. -/
def writtenFloat (value : Float) : Text :=
  match Binary64.ofFloat value with
  | .notANumber => "NaN"
  | .infinite negative => if negative then "-Infinity" else "Infinity"
  | .finite negative significand exponent =>
      Binary64.toText (.finite negative significand exponent)

/-- What separates items and names from values: `breakLine` starts a new line of
the given level, or is empty for a value on one line. -/
structure Style where
  breakLine : Nat → Text
  itemMark : Text
  nameMark : Text

/-- Everything on one line. -/
def Style.compact : Style :=
  ⟨fun _ => [], ", ", ": "⟩

/-- One item a line, indented by two spaces a level. -/
def Style.indented : Style :=
  ⟨fun level => '\n' :: List.replicate (2 * level) ' ', ",", ": "⟩

mutual

/-- A value in the given style, at the given level. -/
def writtenAt (style : Style) (level : Nat) : Json → Text
  | null => "null"
  | bool value => if value then "true" else "false"
  | int value => Text.ofInt value
  | float value => writtenFloat value
  | string points => writtenString points
  | array [] => "[]"
  | array (first :: rest) =>
      "[" ++ writtenElements style (level + 1) (first :: rest) ++ style.breakLine level ++ "]"
  | object [] => "\x7b\x7d"
  | object (first :: rest) =>
      "\x7b" ++ writtenMembers style (level + 1) (first :: rest) ++ style.breakLine level
        ++ "\x7d"

/-- The elements of an array, each on its line. -/
def writtenElements (style : Style) (level : Nat) : List Json → Text
  | [] => []
  | [element] => style.breakLine level ++ writtenAt style level element
  | element :: rest =>
      style.breakLine level ++ writtenAt style level element ++ style.itemMark
        ++ writtenElements style level rest

/-- The members of an object, each on its line. -/
def writtenMembers (style : Style) (level : Nat) : List (List CodePoint × Json) → Text
  | [] => []
  | [(name, value)] =>
      style.breakLine level ++ writtenString name ++ style.nameMark
        ++ writtenAt style level value
  | (name, value) :: rest =>
      style.breakLine level ++ writtenString name ++ style.nameMark
        ++ writtenAt style level value ++ style.itemMark ++ writtenMembers style level rest

end

/-- The value on one line. -/
def compact (value : Json) : Text :=
  writtenAt .compact 0 value

/-- The value laid out over several lines. -/
def indented (value : Json) : Text :=
  writtenAt .indented 0 value

end Json

end KeywordBridge
