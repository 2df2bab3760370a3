import KeywordBridge.Diagnostic.Validation
import KeywordBridge.Report
import KeywordBridge.Suggestion.Completion
import KeywordBridge.Web.Page
import KeywordBridge.Web.Request
import KeywordBridge.Web.Target

/-!
# The service

The service answers requests one by one and remembers nothing. Every path belongs
to one endpoint, which is either looked at or is sent a program to work on. What
an endpoint answers is a report or the editor page; a request that is refused is
answered with the reason. A path with one slash too many is sent on to the path
that is meant.
-/

namespace KeywordBridge

namespace Web

/-- What can be asked of the service. -/
inductive Endpoint where
  | page
  | health
  | keywords
  | translate
  | validate
  | complete
  | tokens
deriving DecidableEq

namespace Endpoint

/-- All endpoints. -/
def all : List Endpoint :=
  [page, health, keywords, translate, validate, complete, tokens]

/-- The path of an endpoint. -/
def path : Endpoint → Text
  | page => "/"
  | health => "/health"
  | keywords => "/api/keywords"
  | translate => "/api/translate"
  | validate => "/api/validate"
  | complete => "/api/complete"
  | tokens => "/api/tokens"

/-- Is a program sent to the endpoint? The others are only looked at. -/
def takesProgram : Endpoint → Bool
  | page | health | keywords => false
  | _ => true

/-- The endpoint with this path. -/
def ofPath? (path : Text) : Option Endpoint :=
  all.find? (·.path == path)

/-- Every endpoint is found at its path. -/
theorem ofPath?_path (endpoint : Endpoint) : ofPath? endpoint.path = some endpoint := by
  cases endpoint <;> decide

end Endpoint

/-- What a request does with an endpoint. -/
inductive Method where
  | get
  | head
  | post
  | options
  | other
deriving DecidableEq

/-- The method with a given name, in which case does not matter. -/
def Method.ofName (name : Text) : Method :=
  let name := name.map Char.toUpper
  if name = "GET".toList then get
  else if name = "HEAD".toList then head
  else if name = "POST".toList then post
  else if name = "OPTIONS".toList then options
  else other

/-- What a path leads to. -/
inductive Resource where
  | endpoint (endpoint : Endpoint)
  /-- A file that the editor page might want. It wants none, and there is none. -/
  | file
deriving DecidableEq

namespace Resource

/-- Does a path lead to a file? -/
def isFile (path : Text) : Bool :=
  match Text.dropStart? "/static/" path with
  | some (first :: rest) => first != '/' && !rest.contains '\n'
  | _ => false

/-- What a path leads to. -/
def ofPath? (path : Text) : Option Resource :=
  match Endpoint.ofPath? path with
  | some found => some (.endpoint found)
  | none => if isFile path then some .file else none

/-- May the method be used? What there is can always be asked for. -/
def admits : Resource → Method → Bool
  | _, .options => true
  | .endpoint place, method =>
      if place.takesProgram then method = .post else method = .get ∨ method = .head
  | .file, method => method = .get ∨ method = .head

end Resource

/-- What an answer carries. -/
inductive Payload where
  | json (value : Json)
  | html (text : Text)
  /-- An error page of the server that runs the service. -/
  | errorPage

/-- An answer. -/
structure Response where
  status : Nat
  payload : Payload
  /-- Is the payload sent? Otherwise only its media type is told. -/
  isSent : Bool := true

namespace Response

/-- The media type of an answer. -/
def mediaType (response : Response) : Text :=
  match response.payload with
  | .json _ => "application/json"
  | .html _ | .errorPage => "text/html"

/-- A request was carried out. -/
def report (value : Json) : Response :=
  { status := 200, payload := .json value }

/-- A request was refused. -/
def refusal (cause : Refusal) : Response :=
  match cause.message? with
  | some message =>
      { status := 400, payload := .json (.record [("error", .string message)]) }
  | none => { status := 500, payload := .errorPage }

/-- The request is sent on to another path. -/
def moved : Response := { status := 308, payload := .errorPage }

/-- The path leads nowhere. -/
def notFound : Response := { status := 404, payload := .errorPage }

/-- What the path leads to cannot be used in this way. -/
def notAllowed : Response := { status := 405, payload := .errorPage }

end Response

/-- The translation that is asked for: in a direction, or in the one that the
program suggests. -/
def translation (table : Table) (job : Job) : Except Refusal Translation :=
  match (job.object.member? "direction").getD (.string "auto") with
  | .string direction =>
      if direction = Text.toPoints "forward" then
        .ok ⟨table.forward job.program, .surface, .target⟩
      else if direction = Text.toPoints "reverse" then
        .ok ⟨table.reverse job.program, .target, .surface⟩
      else if direction = Text.toPoints "auto" then .ok (table.translateAuto job.program)
      else .error (.unknownDirection (.string direction))
  | direction => .error (.unknownDirection direction)

/-- The report of an endpoint on a program that was sent to it. -/
def work (table : Table) (job : Job) : Endpoint → Except Refusal Json
  | .translate => (translation table job).map Translation.report
  | .validate => .ok (reports Diagnostic.report (table.validate job.program))
  | .complete => do
      let place ← job.place
      return reports Suggestion.report (table.complete defaultLimit job.program (some place))
  | .tokens => .ok (reports Token.report (table.tokenize job.program))
  | _ => .ok .null

/-- What an endpoint shows that is only looked at. -/
def view (table : Table) : Endpoint → Payload
  | .page => .html page
  | .health => .json (.record [("ok", .bool true), ("keywords", .int table.entries.length)])
  | .keywords => .json (reports Entry.report table.entries)
  | _ => .errorPage

/-- The answer to a program that was sent to an endpoint. -/
def respond (table : Table) (limit : Nat) (endpoint : Endpoint) (request : Request) :
    Response :=
  match Job.ofRequest limit request with
  | .error cause => .refusal cause
  | .ok job =>
      match work table job endpoint with
      | .error cause => .refusal cause
      | .ok value => .report value

/-- The answer to a request that a resource admits. -/
def Resource.answer (table : Table) (limit : Nat) (request : Request) :
    Resource → Method → Response
  | _, .options => { status := 200, payload := .html [] }
  | .file, _ => .notFound
  | .endpoint place, .post => respond table limit place request
  | .endpoint place, method =>
      { status := 200, payload := view table place, isSent := method != .head }

/-- The answer to a request of a service that reads arrays and objects nested up to a
limit. The empty path is short for the path of the editor page and leads nowhere when
that path cannot be used; any other path that leads nowhere is tried with slashes
merged. -/
def answer (table : Table) (limit : Nat) (request : Request) : Response :=
  let method := Method.ofName request.method
  match Target.path request.target with
  | [] => if (Resource.endpoint .page).admits method then .moved else .notFound
  | path =>
      match Resource.ofPath? path, Resource.ofPath? (Target.mergeSlashes path) with
      | some resource, _ =>
          if resource.admits method then resource.answer table limit request method
          else .notAllowed
      | none, some resource => if resource.admits method then .moved else .notAllowed
      | none, none => .notFound

end Web

end KeywordBridge
