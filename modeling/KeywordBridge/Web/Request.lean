import KeywordBridge.Json.Encoding
import KeywordBridge.Number.Integer

/-!
# Requests to the service

A request to work on a program carries a JSON object, in which the program stands
under the name `code`. A request that does not is refused with a reason. Two reasons
are no faults that are looked for: a document that is nested too deeply and a
place that is infinite make the request fail.
-/

namespace KeywordBridge

namespace Web

/-- A request as it arrives. -/
structure Request where
  method : Text
  /-- The address that the request is directed to. -/
  target : Text
  contentType : Text
  body : List UInt8

/-- Why a request is refused. -/
inductive Refusal where
  | noObject
  /-- The document is nested too deeply to be read. -/
  | tooDeep
  | codeNotText
  | unknownDirection (direction : Json)
  | placeNotIntegers
  /-- A line or a column is infinite. -/
  | infinitePlace

namespace Refusal

/-- The wording of a refusal, if it has one. -/
def message? : Refusal → Option Text
  | noObject => some "expected a JSON object body".toList
  | codeNotText => some "'code' must be a string".toList
  | unknownDirection direction =>
      some ("unknown direction ".toList ++ direction.shown ++ " (forward|reverse|auto)".toList)
  | placeNotIntegers => some "'line' and 'column' must be integers".toList
  | tooDeep | infinitePlace => none

end Refusal

/-- What a content type says without its parameters. Only letters of ASCII occur
in it. -/
def mediaType (contentType : Text) : Text :=
  (Text.trim (contentType.takeWhile (· != ';'))).map Char.toLower

/-- Does a content type announce JSON? -/
def announcesJson (contentType : Text) : Bool :=
  let media := mediaType contentType
  media == "application/json".toList ||
    "application/".toList.isPrefixOf media && "+json".toList.isSuffixOf media

/-- A request to work on a program. -/
structure Job where
  /-- The object that was sent. -/
  object : Json
  /-- The program that was sent, which need not be a text. -/
  code : List CodePoint

namespace Job

/-- The text to work on. -/
def program (job : Job) : Text :=
  Text.ofPoints job.code

/-- Read a request to work on a program, with arrays and objects nested up to a limit.
A program that is missing or null is empty. -/
def ofRequest (limit : Nat) (request : Request) : Except Refusal Job :=
  if announcesJson request.contentType then
    match Json.ofOctets limit request.body with
    | .error .tooDeep => .error .tooDeep
    | .ok (.object members) =>
        let object := Json.object members
        match object.member? "code" with
        | none | some .null => .ok ⟨object, []⟩
        | some (.string points) => .ok ⟨object, points⟩
        | some _ => .error .codeNotText
    | _ => .error .noObject
  else .error .noObject

/-- A coordinate of the place at which to complete, which is one if it is not
given. -/
def coordinate (job : Job) (name : Text) : Except Refusal Int :=
  match ((job.object.member? name).getD (.int 1)).toInteger with
  | .ok value => .ok value
  | .error .infinite => .error .infinitePlace
  | .error _ => .error .placeNotIntegers

/-- The place at which to complete. -/
def place (job : Job) : Except Refusal (Int × Int) := do
  let line ← job.coordinate "line".toList
  let column ← job.coordinate "column".toList
  return (line, column)

end Job

end Web

end KeywordBridge
