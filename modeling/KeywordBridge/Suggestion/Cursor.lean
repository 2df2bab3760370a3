import KeywordBridge.Number.Integer

/-!
# Cursors as hosts report them

A host reports no cursor, a line and a column by name, or a list that should
hold the two. Line and column may be anything that can be taken as an integer;
the line is looked at first.
-/

namespace KeywordBridge

/-- A cursor as it was reported. -/
inductive Cursor where
  | absent
  | named (line column : Json)
  | listed (members : List Json)

/-- Why a cursor cannot be used. -/
inductive CursorError where
  | tooFewMembers (count : Nat)
  | tooManyMembers
  | integer (cause : IntegerError)
deriving DecidableEq

/-- The wording of a refusal. -/
def CursorError.message : CursorError → Text
  | .tooFewMembers count =>
      "not enough values to unpack (expected 2, got " ++ Text.ofNat count ++ ")"
  | .tooManyMembers => "too many values to unpack (expected 2)"
  | .integer cause => cause.message

namespace Cursor

/-- A line and a column as integers. -/
def place (line column : Json) : Except CursorError (Option (Int × Int)) := do
  let line ← line.toInteger.mapError .integer
  let column ← column.toInteger.mapError .integer
  return some (line, column)

/-- The line and the column of the cursor, if it has any. -/
def resolve : Cursor → Except CursorError (Option (Int × Int))
  | absent => .ok none
  | named line column => place line column
  | listed [line, column] => place line column
  | listed (_ :: _ :: _ :: _) => .error .tooManyMembers
  | listed members => .error (.tooFewMembers members.length)

end Cursor

end KeywordBridge
