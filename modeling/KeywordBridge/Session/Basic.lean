import KeywordBridge.Content
import KeywordBridge.Diagnostic.Validation

/-!
# Editing sessions

A session accompanies one buffer of an editor. Every change of the buffer puts
off the validation of its content by arming a timer and cancelling the one armed
before, so at most one validation is pending. When the timer runs, or when the
host asks for it, the content is validated and the diagnostics are sent to the
host as one set of markers that replaces the last.

A validation takes time, and a host may react to the markers it is sent. In the
meantime other operations may run, so an operation is described as a sequence of
moves. A move changes the session, may leave a task that has still to be done,
and tells what the host can notice of it. Between a move and the task it leaves,
any other operation may come first. A counter of generations makes sure that a
task that was overtaken in this way leaves no trace: every operation that makes
earlier validations obsolete advances the counter, and a result is dropped when
its generation is no longer the current one.
-/

namespace KeywordBridge

/-- Why a session refuses an operation or fails in one. -/
inductive SessionError where
  /-- The session has been closed. -/
  | closed
  /-- No timer with this number has been armed. -/
  | noSuchTimer
  /-- The content of the buffer is no text. -/
  | content (cause : ContentError)
deriving DecidableEq

/-- The wording of a refusal. -/
def SessionError.message : SessionError → Text
  | .closed => "EditorSession is closed"
  | .noSuchTimer => "list index out of range"
  | .content cause => cause.message

/-- A timer. It was armed for a generation, and may have been cancelled, have
run, or both. -/
structure Timer where
  generation : Nat
  cancelled : Bool := false
  fired : Bool := false
deriving DecidableEq

namespace Timer

/-- Cancel the timer. -/
def cancel (timer : Timer) : Timer :=
  { timer with cancelled := true }

/-- Record that the timer has run. -/
def fire (timer : Timer) : Timer :=
  { timer with fired := true }

/-- Is the timer still to run? -/
def isLive (timer : Timer) : Bool :=
  !timer.cancelled && !timer.fired

end Timer

/-- The state of a session, with the timers armed and the markers sent so far. -/
structure Session where
  content : Content
  /-- The number of the timer that will validate the content, if there is one. -/
  pending : Option Nat := none
  generation : Nat := 0
  closed : Bool := false
  diagnostics : List Diagnostic := []
  /-- How many validations have been published. -/
  passes : Nat := 0
  /-- The timers in the order in which they were armed. -/
  timers : List Timer := []
  /-- The sets of markers in the order in which they were sent. -/
  sent : List (List Diagnostic) := []

/-- What may be done to a session. -/
inductive Operation where
  /-- The content was edited. -/
  | change (content : Content)
  /-- Validate now if a validation is pending. -/
  | flush
  /-- Another document takes the place of the content. -/
  | replace (content : Content)
  | close
  /-- The timer with this number runs, whether or not it was cancelled. -/
  | fire (timer : Nat)

/-- What remains to be done of an operation. -/
inductive Task where
  /-- Read the content and start to validate it. -/
  | validate (generation : Nat)
  /-- Publish the diagnostics of the content that was read. -/
  | publish (generation : Nat) (content : Content)

/-- What a host can notice of a move. -/
inductive Notice where
  | nothing
  /-- A validation has started. -/
  | validating
  /-- A set of markers has been sent. -/
  | marking
deriving DecidableEq

/-- The outcome of a move. -/
structure Move where
  session : Session
  task : Option Task := none
  notice : Notice := .nothing

namespace Session

/-! ## Parts of operations -/

/-- Nothing is pending any more; the timer that was is cancelled. -/
def cancelPending (session : Session) : Session :=
  match session.pending with
  | none => session
  | some timer =>
      { session with pending := none, timers := session.timers.modify timer Timer.cancel }

/-- Make all validations obsolete that have been asked for so far. -/
def advance (session : Session) : Session :=
  { session with generation := session.generation + 1 }

/-- Arm a timer for the current generation. -/
def arm (session : Session) : Session :=
  { session with
    pending := some session.timers.length
    timers := session.timers ++ [{ generation := session.generation }] }

/-- Take a set of diagnostics for the current one and send it. -/
def send (session : Session) (diagnostics : List Diagnostic) : Session :=
  { session with diagnostics := diagnostics, sent := session.sent ++ [diagnostics] }

/-- Is this the generation whose validation is still wanted? -/
def isCurrent (session : Session) (generation : Nat) : Bool :=
  generation == session.generation && !session.closed

/-! ## Moves -/

/-- The first move of an operation. -/
def start (session : Session) : Operation → Except SessionError Move
  | .change content =>
      if session.closed then .error .closed
      else .ok { session := { session with content }.cancelPending.advance.arm }
  | .flush =>
      if session.closed then .error .closed
      else
        match session.pending with
        | none => .ok { session }
        | some _ =>
            let next := session.cancelPending.advance
            .ok { session := next, task := some (.validate next.generation) }
  | .replace content =>
      if session.closed then .error .closed
      else
        let next := { session.cancelPending.advance with content }
        .ok {
          session := next.send []
          task := some (.validate next.generation)
          notice := .marking }
  | .close =>
      if session.closed then .ok { session }
      else
        let next := { session.cancelPending.advance with closed := true }
        .ok { session := next.send [], notice := .marking }
  | .fire number =>
      match session.timers[number]? with
      | none => .error .noSuchTimer
      | some timer =>
          let next := { session with timers := session.timers.modify number Timer.fire }
          if next.isCurrent timer.generation then
            .ok {
              session := { next with pending := none }
              task := some (.validate timer.generation) }
          else .ok { session := next }

/-- The move that does a task. A validation of a content that is no text fails,
after it has started. -/
def perform (table : Table) (session : Session) : Task → Except SessionError Move
  | .validate generation =>
      .ok {
        session
        task := some (.publish generation session.content)
        notice := .validating }
  | .publish generation content => do
      let text ← content.programText.mapError .content
      if session.isCurrent generation then
        return {
          session := { session with passes := session.passes + 1 }.send (table.validate text)
          notice := .marking }
      else return { session }

/-- A new session, whose first task is to validate its content. -/
def new (content : Content) : Move :=
  { session := { content }, task := some (.validate 0) }

end Session

end KeywordBridge
