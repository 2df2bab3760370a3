import KeywordBridge.Json.Basic

/-!
# Contents in place of a text

Callers hand over JSON values where a text is wanted. A content is what has been
accepted in its place: every absent value counts as the empty text, a text is
kept, and any other value is kept too and refused only when it is put to use.
Where a text is required from the start, a text or null is taken and everything
else is refused, absent values included.
-/

namespace KeywordBridge

/-- Why a value cannot be taken as a text. -/
inductive ContentError where
  /-- A value of this kind stands where a text or null is required. -/
  | neitherTextNorNull (kind : Text)
  /-- A value of this kind has no lines. -/
  | withoutLines (kind : Text)
deriving DecidableEq

/-- The wording of a refusal. -/
def ContentError.message : ContentError → Text
  | .neitherTextNorNull kind => "expected str or None, got " ++ kind
  | .withoutLines kind => "'" ++ kind ++ "' object has no attribute 'split'"

/-- A text, or a value that was handed over in place of one. -/
inductive Content where
  | text (program : Text)
  | other (value : Json)

namespace Content

/-- What is accepted of a value: absent values become the empty text. -/
def ofJson : Json → Content
  | .string points => .text (Text.ofPoints points)
  | value => if value.isAbsent then .text [] else .other value

/-- The content as a value. -/
def toJson : Content → Json
  | text program => .string program
  | other value => value

/-- The text to translate or to check. -/
def programText : Content → Except ContentError Text
  | text program => .ok program
  | other value => .error (.neitherTextNorNull value.kindName)

/-- The text to cut into lines. -/
def linedText : Content → Except ContentError Text
  | text program => .ok program
  | other value => .error (.withoutLines value.kindName)

end Content

/-- The text that a value stands for where a text or null is required. -/
def Json.requiredText : Json → Except ContentError Text
  | null => .ok []
  | string points => .ok (Text.ofPoints points)
  | value => .error (.neitherTextNorNull value.kindName)

end KeywordBridge
