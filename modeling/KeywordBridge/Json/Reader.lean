import KeywordBridge.Json.Basic

/-!
# Reading JSON

The reader accepts the JSON grammar and three words more, `NaN`, `Infinity` and
`-Infinity`. A number too large for a double is infinite, an integer may have at
most 4300 digits, and of two members with one name the later counts. Control
characters inside strings, trailing commas and leading zeros are errors. Two
escapes in a row that are a pair of surrogates stand for one character; any other
surrogate stays alone.

Arrays and objects may be nested in one another up to a limit, which depends on the
machine that the reader runs on. A document is read from left to right, and the
reader gives up at the first mistake or where the limit is passed, whichever comes
first.
-/

namespace KeywordBridge

/-- Why a document is not read. -/
inductive ReadError where
  | malformed
  /-- Too many arrays and objects are nested in one another. -/
  | tooDeep
deriving DecidableEq

/-- What was expected is there, or the document is malformed. -/
def expected {α : Type} : Option α → Except ReadError α
  | some found => .ok found
  | none => .error .malformed

namespace Json

/-- Is this one of the blanks that may separate the items of a JSON text? -/
def isSpace : CodePoint → Bool
  | .char c => c == ' ' || c == '\t' || c == '\n' || c == '\r'
  | .surrogate _ => false

/-- Drop the blanks at the start. -/
def skipSpace (points : List CodePoint) : List CodePoint :=
  points.dropWhile isSpace

/-- The value of four hexadecimal digits. -/
def hexQuad? (a b c d : Char) : Option Nat := do
  let first ← Text.hexValue? a
  let second ← Text.hexValue? b
  let third ← Text.hexValue? c
  let fourth ← Text.hexValue? d
  return ((first * 16 + second) * 16 + third) * 16 + fourth

/-- The character that a short escape stands for. -/
def escaped? (c : Char) : Option Char :=
  if c == '"' || c == '\\' || c == '/' then some c
  else if c == 'b' then some '\x08'
  else if c == 'f' then some '\x0c'
  else if c == 'n' then some '\n'
  else if c == 'r' then some '\r'
  else if c == 't' then some '\t'
  else none

/-- Read the rest of a string behind its opening quote; `waiting` is a high
surrogate from the escape right before, which may find its partner. -/
def readStringFrom : (waiting : Option CodePoint) → List CodePoint →
    Option (List CodePoint × List CodePoint)
  | waiting, .char '\\' :: .char 'u' :: .char a :: .char b :: .char c :: .char d :: rest => do
      let unit ← CodePoint.ofValue? (← hexQuad? a b c d)
      match waiting.bind (·.pair? unit) with
      | some joined =>
          let (points, rest) ← readStringFrom none rest
          return (.char joined :: points, rest)
      | none =>
          if unit.isHigh then
            let (points, rest) ← readStringFrom (some unit) rest
            return (waiting.toList ++ points, rest)
          else
            let (points, rest) ← readStringFrom none rest
            return (waiting.toList ++ unit :: points, rest)
  | waiting, .char '\\' :: .char c :: rest => do
      let meant ← escaped? c
      let (points, rest) ← readStringFrom none rest
      return (waiting.toList ++ .char meant :: points, rest)
  | waiting, .char '"' :: rest => some (waiting.toList, rest)
  | waiting, point :: rest =>
      if point.value < 0x20 || point == .char '\\' then none
      else do
        let (points, rest) ← readStringFrom none rest
        return (waiting.toList ++ point :: points, rest)
  | _, [] => none

/-- Read the rest of a string behind its opening quote. -/
def readString (points : List CodePoint) : Except ReadError (List CodePoint × List CodePoint) :=
  expected (readStringFrom none points)

/-- Is the character one of the ten plain digits? -/
def isDigit (c : Char) : Bool :=
  '0' ≤ c && c ≤ '9'

/-- The value of a row of plain digits. -/
def digitsValue (digits : Text) : Nat :=
  digits.foldl (fun value c => value * 10 + (c.toNat - 48)) 0

/-- The fraction of a number: a point and at least one digit, or nothing. -/
def readFraction : Text → Text × Text
  | '.' :: rest =>
      let digits := rest.takeWhile isDigit
      if digits.isEmpty then ([], '.' :: rest) else (digits, rest.dropWhile isDigit)
  | rest => ([], rest)

/-- The exponent of a number: its mark, an optional sign and at least one digit,
or nothing. -/
def readExponent : Text → Option Int × Text
  | mark :: rest =>
      if mark == 'e' || mark == 'E' then
        let (negative, unsigned) :=
          match rest with
          | '-' :: rest => (true, rest)
          | '+' :: rest => (false, rest)
          | rest => (false, rest)
        let digits := unsigned.takeWhile isDigit
        if digits.isEmpty then (none, mark :: rest)
        else (some (Binary64.signed negative (digitsValue digits)), unsigned.dropWhile isDigit)
      else (none, mark :: rest)
  | [] => (none, [])

/-- The double nearest to `digits * 10 ^ exponent`. Exponents far outside the
range of doubles are settled without computing the power. -/
def nearestDouble (digits : Nat) (exponent : Int) : Float :=
  let magnitude := exponent + (Nat.toDigits 10 digits).length
  if digits == 0 || magnitude < -400 then 0.0
  else if magnitude > 400 then 1.0 / 0.0
  else Float.ofScientific (digits * tenTo exponent.toNat) true (-exponent).toNat

/-- Read a number without its sign. -/
def readUnsigned (negative : Bool) (text : Text) : Option (Json × Text) :=
  let run := text.takeWhile isDigit
  let whole := if run.head? == some '0' then ['0'] else run
  if whole.isEmpty then none
  else
    let (fraction, rest) := readFraction (text.drop whole.length)
    let (exponent, rest) := readExponent rest
    if fraction.isEmpty && exponent.isNone then
      if whole.length > 4300 then none
      else some (int (Binary64.signed negative (digitsValue whole)), rest)
    else
      let magnitude :=
        nearestDouble (digitsValue (whole ++ fraction)) (exponent.getD 0 - fraction.length)
      some (float (if negative then -magnitude else magnitude), rest)

/-- Read a constant or a number at the start of a text. -/
def readWord (text : Text) : Option (Json × Text) :=
  match Text.dropStart? "null" text, Text.dropStart? "true" text,
      Text.dropStart? "false" text with
  | some rest, _, _ => some (null, rest)
  | _, some rest, _ => some (bool true, rest)
  | _, _, some rest => some (bool false, rest)
  | _, _, _ =>
      match Text.dropStart? "NaN" text, Text.dropStart? "Infinity" text,
          Text.dropStart? "-Infinity" text with
      | some rest, _, _ => some (float (0.0 / 0.0), rest)
      | _, some rest, _ => some (float (1.0 / 0.0), rest)
      | _, _, some rest => some (float (-1.0 / 0.0), rest)
      | _, _, _ =>
          match text with
          | '-' :: rest => readUnsigned true rest
          | rest => readUnsigned false rest

/-- May this be part of a constant or a number? -/
def isWordPart : CodePoint → Bool
  | .char c => c.isAlphanum || c == '+' || c == '-' || c == '.'
  | .surrogate _ => false

/-- Read a constant or a number. -/
def readScalar (points : List CodePoint) : Except ReadError (Json × List CodePoint) := do
  let run := Text.ofPoints (points.takeWhile isWordPart)
  let (value, rest) ← expected (readWord run)
  return (value, points.drop (run.length - rest.length))

mutual

/-- Read a value in which arrays and objects are nested up to a depth. Of two steps one
uses up a code point, so a bound of twice the length of the document is never reached. -/
def readValue : (bound depth : Nat) → List CodePoint →
    Except ReadError (Json × List CodePoint)
  | 0, _, _ => .error .malformed
  | bound + 1, depth, points =>
      match skipSpace points, depth with
      | .char '"' :: rest, _ => do
          let (value, rest) ← readString rest
          return (string value, rest)
      | .char '[' :: _, 0 => .error .tooDeep
      | .char '[' :: rest, depth + 1 =>
          match skipSpace rest with
          | .char ']' :: rest => .ok (array [], rest)
          | rest => do
              let (elements, rest) ← readElements bound depth rest
              return (array elements, rest)
      | .char '{' :: _, 0 => .error .tooDeep
      | .char '{' :: rest, depth + 1 =>
          match skipSpace rest with
          | .char '}' :: rest => .ok (object [], rest)
          | rest => do
              let (members, rest) ← readMembers bound depth [] rest
              return (object members, rest)
      | rest, _ => readScalar rest

/-- Read the elements of an array up to its closing bracket. -/
def readElements : (bound depth : Nat) → List CodePoint →
    Except ReadError (List Json × List CodePoint)
  | 0, _, _ => .error .malformed
  | bound + 1, depth, points => do
      let (element, rest) ← readValue bound depth points
      match skipSpace rest with
      | .char ',' :: rest =>
          let (others, rest) ← readElements bound depth rest
          return (element :: others, rest)
      | .char ']' :: rest => return ([element], rest)
      | _ => .error .malformed

/-- Read the members of an object up to its closing brace, behind the members
that are known already. -/
def readMembers : (bound depth : Nat) → List (List CodePoint × Json) → List CodePoint →
    Except ReadError (List (List CodePoint × Json) × List CodePoint)
  | 0, _, _, _ => .error .malformed
  | bound + 1, depth, known, points =>
      match skipSpace points with
      | .char '"' :: rest => do
          let (name, rest) ← readString rest
          match skipSpace rest with
          | .char ':' :: rest =>
              let (value, rest) ← readValue bound depth rest
              let members := setMember name value known
              match skipSpace rest with
              | .char ',' :: rest => readMembers bound depth members rest
              | .char '}' :: rest => return (members, rest)
              | _ => .error .malformed
          | _ => .error .malformed
      | _ => .error .malformed

end

/-- The value that a whole document stands for, in which arrays and objects are nested
up to a limit. -/
def read (limit : Nat) (points : List CodePoint) : Except ReadError Json := do
  let (value, rest) ← readValue (2 * points.length + 1) limit points
  if (skipSpace rest).isEmpty then return value else throw .malformed

end Json

end KeywordBridge
