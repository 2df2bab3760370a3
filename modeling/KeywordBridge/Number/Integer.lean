import KeywordBridge.Json.Basic

/-!
# Reading integers

Line numbers, columns, delays and ports are wanted as integers but may arrive as
any JSON value. Integers and truth values are taken as they are, other numbers
are cut toward zero, and a text is read as decimal digits of any script, with an
optional sign, single underscores between the digits, and white space around
them. A text may have at most 4300 digits.
-/

namespace KeywordBridge

/-- Why a value is no integer. -/
inductive IntegerError where
  /-- The value is neither a number nor a text. -/
  | wrongKind (kind : Text)
  /-- The text does not read as an integer. -/
  | badText (text : Text)
  /-- The text has more digits than are read. -/
  | tooLong (digits : Nat)
  | infinite
  | notANumber
deriving DecidableEq

/-- How many digits a text may have that is read as an integer. -/
def digitLimit : Nat := 4300

/-- The wording of a refusal. A text that cannot be read is shown up to its two
hundredth character. -/
def IntegerError.message : IntegerError → Text
  | .wrongKind kind =>
      "int() argument must be a string, a bytes-like object or a real number, not '"
        ++ kind ++ "'"
  | .badText text => "invalid literal for int() with base 10: " ++ text.quoted.take 200
  | .tooLong digits =>
      "Exceeds the limit (" ++ Text.ofNat digitLimit
        ++ " digits) for integer string conversion: value has " ++ Text.ofNat digits
        ++ " digits; use sys.set_int_max_str_digits() to increase the limit"
  | .infinite => "cannot convert float infinity to integer"
  | .notANumber => "cannot convert float NaN to integer"

namespace Text

/-- The white space that may surround an integer: all blanks but the information
separators. -/
def isIntegerSpace (c : Char) : Bool :=
  isBlankChar c && !(0x1C ≤ c.toNat && c.toNat ≤ 0x1F)

/-- Read digits with single underscores between them: the values of the digits
and what follows them. There is no result when an underscore is not followed by
a digit. -/
def readDigits : Text → Option (List Nat × Text)
  | [] => some ([], [])
  | c :: rest =>
      match digitValue? c with
      | some value => do
          let (values, rest) ← readDigits rest
          return (value :: values, rest)
      | none =>
          if c == '_' then
            match rest with
            | next :: _ =>
                if (digitValue? next).isSome then readDigits rest else none
            | [] => none
          else some ([], c :: rest)

/-- Read a text as an integer. -/
def toInteger (text : Text) : Except IntegerError Int :=
  let trimmed := text.dropWhile isIntegerSpace
  let (negative, unsigned) :=
    match trimmed with
    | '-' :: rest => (true, rest)
    | '+' :: rest => (false, rest)
    | rest => (false, rest)
  if unsigned.head? == some '_' then .error (.badText text)
  else
    match readDigits unsigned with
    | none => .error (.badText text)
    | some (values, rest) =>
        if values.length > digitLimit then .error (.tooLong values.length)
        else if values.isEmpty || !rest.all isIntegerSpace then .error (.badText text)
        else .ok (Binary64.signed negative (values.foldl (fun n value => n * 10 + value) 0))

end Text

/-- Take a JSON value as an integer. -/
def Json.toInteger : Json → Except IntegerError Int
  | .int value => .ok value
  | .bool value => .ok (if value then 1 else 0)
  | .string points => (Text.ofPoints points).toInteger
  | .float value =>
      match Binary64.ofFloat value with
      | .finite negative significand exponent =>
          .ok (Binary64.truncate negative significand exponent)
      | .infinite _ => .error .infinite
      | .notANumber => .error .notANumber
  | value => .error (.wrongKind value.kindName)

end KeywordBridge
