import KeywordBridge.Session.Basic
import KeywordBridge.Session.Delay
import KeywordBridge.Suggestion.Completion
import KeywordBridge.Suggestion.Cursor
import KeywordBridge.Translation

/-!
# Scripted sessions

A script drives a session and lets operations nest: a reaction may be left to
the next validation that starts or to the next set of markers that is sent. A
reaction is used once. It is carried out between the move that triggers it and
the task which that move leaves, so the agenda of a script is a stack: a
triggered reaction comes before the rest of the operation that triggered it.

A failure ends the step it occurs in, with everything that was nested in it.
What has been done up to then stays done.

Timers are kept by a scheduler. Two kinds hand them to the script, which decides
when they run; the third kind runs them on its own as soon as a step is done.
-/

namespace KeywordBridge

/-- A step of a script. -/
inductive Script where
  | operate (operation : Operation)
  /-- Run all timers that have not been cancelled so far, in order. -/
  | fireLive
  /-- Leave a reaction to the next validation that starts. -/
  | onValidation (reaction : Script)
  /-- Leave a reaction to the next set of markers that is sent. -/
  | onMarkers (reaction : Script)
  | completions (cursor : Cursor)
  | tokens
  | translated

/-- Why a step of a script fails. -/
inductive ScriptError where
  | session (cause : SessionError)
  | content (cause : ContentError)
  | cursor (cause : CursorError)
deriving DecidableEq

/-- What a step answers. -/
inductive Reply where
  | nothing
  | suggestions (suggestions : List Suggestion)
  | tokens (tokens : List Token)
  | text (text : Text)

/-- The number of steps in a script, reactions included. -/
def Script.size : Script → Nat
  | onValidation reaction => reaction.size + 1
  | onMarkers reaction => reaction.size + 1
  | _ => 1

/-- What keeps the timers of a session. -/
inductive Scheduler where
  /-- The script runs the timers, whose delays count microseconds. -/
  | manual
  /-- The script runs the timers, whose delays count milliseconds. -/
  | widget
  /-- Every timer runs when the step that armed it is done. -/
  | thread
deriving DecidableEq

namespace Scheduler

/-- Are the timers handed to the script? -/
def handsOut : Scheduler → Bool
  | thread => false
  | _ => true

/-- The delay of a timer in the units of the scheduler. -/
def delay (seconds : Float) : Scheduler → Int
  | manual => Delay.microseconds seconds
  | _ => Delay.milliseconds seconds

end Scheduler

/-- A session with its scheduler and the reactions that wait for their occasion. -/
structure Stage where
  session : Session
  scheduler : Scheduler
  onValidation : Option Script := none
  onMarkers : Option Script := none

/-- Something that is still to be done. -/
inductive Item where
  | script (script : Script)
  | operation (operation : Operation)
  | task (task : Task)

namespace Item

/-- The steps of scripts that an item holds. -/
def steps : Item → Nat
  | script step => step.size
  | _ => 0

/-- A bound on the moves that an item takes apart from steps of scripts. -/
def moves : Item → Nat
  | script _ => 0
  | operation _ => 3
  | task (.validate _) => 2
  | task (.publish _ _) => 1

end Item

/-- The steps of scripts in an agenda. -/
def agendaSteps : List Item → Nat
  | [] => 0
  | item :: rest => item.steps + agendaSteps rest

/-- A bound on the moves of an agenda apart from steps of scripts. -/
def agendaMoves : List Item → Nat
  | [] => 0
  | item :: rest => item.moves + agendaMoves rest

/-- The steps of two agendas add up. -/
theorem agendaSteps_append (first second : List Item) :
    agendaSteps (first ++ second) = agendaSteps first + agendaSteps second := by
  induction first with
  | nil => simp [agendaSteps]
  | cons item rest ih => simp [agendaSteps, ih, Nat.add_assoc]

/-- The moves of two agendas add up. -/
theorem agendaMoves_append (first second : List Item) :
    agendaMoves (first ++ second) = agendaMoves first + agendaMoves second := by
  induction first with
  | nil => simp [agendaMoves]
  | cons item rest ih => simp [agendaMoves, ih, Nat.add_assoc]

/-- Operations that run timers hold no steps of scripts. -/
theorem agendaSteps_fire (numbers : List Nat) :
    agendaSteps (numbers.map (.operation <| .fire ·)) = 0 := by
  induction numbers with
  | nil => rfl
  | cons number others ih => simp [agendaSteps, Item.steps, ih]

/-- The size of a reaction that may be there. -/
def reactionSize : Option Script → Nat
  | some script => script.size
  | none => 0

namespace Stage

/-- The steps of the reactions that wait. -/
def waitingSteps (stage : Stage) : Nat :=
  reactionSize stage.onValidation + reactionSize stage.onMarkers

/-- The stage without the reaction that a notice triggers, and that reaction. -/
def react (stage : Stage) : Notice → Stage × List Item
  | .nothing => (stage, [])
  | .validating =>
      ({ stage with onValidation := none }, (stage.onValidation.map Item.script).toList)
  | .marking => ({ stage with onMarkers := none }, (stage.onMarkers.map Item.script).toList)

/-- A triggered reaction moves to the agenda, so no step is lost or gained. -/
theorem waitingSteps_react (stage : Stage) (notice : Notice) :
    (stage.react notice).1.waitingSteps + agendaSteps (stage.react notice).2
      = stage.waitingSteps := by
  cases notice with
  | nothing => simp [react, agendaSteps]
  | validating =>
      cases h : stage.onValidation with
      | none => simp [react, waitingSteps, agendaSteps, reactionSize, h]
      | some script =>
          simp [react, waitingSteps, agendaSteps, reactionSize, Item.steps, h]
          omega
  | marking =>
      cases h : stage.onMarkers <;>
        simp [react, waitingSteps, agendaSteps, reactionSize, Item.steps, h]

/-- A reaction by itself takes no move. -/
theorem agendaMoves_react (stage : Stage) (notice : Notice) :
    agendaMoves (stage.react notice).2 = 0 := by
  cases notice with
  | nothing => simp [react, agendaMoves]
  | validating =>
      cases h : stage.onValidation <;> simp [react, agendaMoves, Item.moves, h]
  | marking =>
      cases h : stage.onMarkers <;> simp [react, agendaMoves, Item.moves, h]

/-- The stage and the agenda after a move: the reaction that it triggers, the
task that it leaves, and the rest. -/
def after (stage : Stage) (move : Move) (rest : List Item) : Stage × List Item :=
  let (stage, reaction) := { stage with session := move.session }.react move.notice
  (stage, reaction ++ (move.task.map Item.task).toList ++ rest)

/-- A move neither loses steps nor gains any. -/
theorem steps_after (stage : Stage) (move : Move) (rest : List Item) :
    (stage.after move rest).1.waitingSteps + agendaSteps (stage.after move rest).2
      = stage.waitingSteps + agendaSteps rest := by
  have kept := waitingSteps_react { stage with session := move.session } move.notice
  have of_task : agendaSteps (move.task.map Item.task).toList = 0 := by
    cases move.task <;> simp [agendaSteps, Item.steps]
  simp only [after, agendaSteps_append, waitingSteps] at kept of_task ⊢
  omega

/-- Behind a move there remain the moves of the task that it leaves and those of
the rest. -/
theorem moves_after (stage : Stage) (move : Move) (rest : List Item) :
    agendaMoves (stage.after move rest).2
      = agendaMoves (move.task.map Item.task).toList + agendaMoves rest := by
  have of_reaction := agendaMoves_react { stage with session := move.session } move.notice
  simp only [after, agendaMoves_append] at of_reaction ⊢
  omega

/-- The numbers of the timers that a script can run at once: those handed out
and not cancelled. -/
def uncancelled (stage : Stage) : List Nat :=
  if stage.scheduler.handsOut then
    (List.range stage.session.timers.length).filter fun number =>
      (stage.session.timers[number]?).any (!·.cancelled)
  else []

/-- Does the operation run a timer that the scheduler does not hand out? -/
def withholds (stage : Stage) : Operation → Bool
  | .fire _ => !stage.scheduler.handsOut
  | _ => false

end Stage

/-- The first move of an operation leaves a task of at most two moves. -/
theorem moves_of_start {session : Session} {operation : Operation} {move : Move}
    (done : session.start operation = .ok move) :
    agendaMoves (move.task.map Item.task).toList ≤ 2 := by
  cases operation with
  | fire number =>
      simp only [Session.start] at done
      split at done
      · simp at done
      · split at done <;> cases done <;> simp [agendaMoves, Item.moves]
  | flush =>
      simp only [Session.start] at done
      split at done
      · simp at done
      · split at done <;> cases done <;> simp [agendaMoves, Item.moves]
  | _ =>
      simp only [Session.start] at done
      split at done <;> cases done <;> simp [agendaMoves, Item.moves]

/-- Every task leaves a smaller one or none. -/
theorem moves_of_perform {table : Table} {session : Session} {task : Task} {move : Move}
    (done : session.perform table task = .ok move) :
    agendaMoves (move.task.map Item.task).toList < (Item.task task).moves := by
  cases task with
  | validate generation =>
      cases done
      simp [agendaMoves, Item.moves]
  | publish generation content =>
      simp only [Session.perform, bind, Except.bind] at done
      split at done
      · simp at done
      · split at done <;> cases done <;> simp [agendaMoves, Item.moves]

/-- Answer a step that looks at the buffer without changing the session. -/
def Session.answer (table : Table) (session : Session) : Script → Except ScriptError Reply
  | .completions cursor => do
      let text ← session.content.linedText.mapError .content
      let place ← cursor.resolve.mapError .cursor
      return .suggestions (table.complete defaultLimit text place)
  | .tokens => do
      let text ← session.content.linedText.mapError .content
      return .tokens (table.tokenize text)
  | .translated => do
      let text ← session.content.programText.mapError .content
      return .text (table.forward text)
  | _ => return .nothing

namespace Stage

/-- Work off an agenda. The result is the stage at the end or at the first
failure. -/
def run (table : Table) (stage : Stage) : List Item → Stage × Option ScriptError
  | [] => (stage, none)
  | .script step :: rest =>
      match step with
      | .operate operation =>
          if stage.withholds operation then (stage, some (.session .noSuchTimer))
          else run table stage (.operation operation :: rest)
      | .fireLive =>
          run table stage (stage.uncancelled.map (.operation <| .fire ·) ++ rest)
      | .onValidation reaction => run table { stage with onValidation := some reaction } rest
      | .onMarkers reaction => run table { stage with onMarkers := some reaction } rest
      | step =>
          match stage.session.answer table step with
          | .error cause => (stage, some cause)
          | .ok _ => run table stage rest
  | .operation operation :: rest =>
      match _done : stage.session.start operation with
      | .error cause => (stage, some (.session cause))
      | .ok move => run table (stage.after move rest).1 (stage.after move rest).2
  | .task task :: rest =>
      match _done : stage.session.perform table task with
      | .error cause => (stage, some (.session cause))
      | .ok move => run table (stage.after move rest).1 (stage.after move rest).2
termination_by agenda => (stage.waitingSteps + agendaSteps agenda, agendaMoves agenda)
decreasing_by
  · apply Prod.Lex.left
    simp [agendaSteps, Item.steps, Script.size]
  · apply Prod.Lex.left
    rw [agendaSteps_append, agendaSteps_fire]
    simp [agendaSteps, Script.size, Item.steps]
  · apply Prod.Lex.left
    simp [agendaSteps, waitingSteps, reactionSize, Item.steps, Script.size]
    omega
  · apply Prod.Lex.left
    simp [agendaSteps, waitingSteps, reactionSize, Item.steps, Script.size]
    omega
  · apply Prod.Lex.left
    cases step <;> simp [agendaSteps, Item.steps, Script.size]
  · rw [steps_after, moves_after]
    have := moves_of_start _done
    have same : agendaSteps (.operation operation :: rest) = agendaSteps rest := by
      simp [agendaSteps, Item.steps]
    rw [same]
    apply Prod.Lex.right
    simp only [agendaMoves, Item.moves] at this ⊢
    omega
  · rw [steps_after, moves_after]
    have := moves_of_perform _done
    have same : agendaSteps (.task task :: rest) = agendaSteps rest := by
      simp [agendaSteps, Item.steps]
    rw [same]
    apply Prod.Lex.right
    simp only [agendaMoves] at this ⊢
    omega

/-- The number of the first timer that is still to run. -/
def liveTimer? (session : Session) : Option Nat :=
  session.timers.findIdx? (·.isLive)

/-- Run the timers that are still to run, one after the other. A failure ends
the timer it occurs in and is noticed by nobody. Timers that were armed before
and steps that wait bound the number of timers that can run. -/
def settleWithin (table : Table) : (bound : Nat) → Stage → Stage
  | 0, stage => stage
  | bound + 1, stage =>
      match liveTimer? stage.session with
      | none => stage
      | some number =>
          settleWithin table bound (stage.run table [.operation (.fire number)]).1

/-- Run the timers that the scheduler runs on its own. -/
def settle (table : Table) (stage : Stage) : Stage :=
  if stage.scheduler.handsOut then stage
  else settleWithin table (stage.session.timers.length + stage.waitingSteps) stage

/-- Carry out one step of a script, and let the scheduler run its timers. -/
def step (table : Table) (stage : Stage) (script : Script) : Stage × Except ScriptError Reply :=
  let reply := stage.session.answer table script
  match stage.run table [.script script] with
  | (stage, some cause) => (stage.settle table, .error cause)
  | (stage, none) => (stage.settle table, reply)

/-- The stage on which a session with the given content opens. Its content is
validated at once. -/
def enter (table : Table) (scheduler : Scheduler) (content : Content) :
    Except ScriptError Stage :=
  let move := Session.new content
  match run table { session := move.session, scheduler } (move.task.map Item.task).toList with
  | (_, some cause) => .error cause
  | (stage, none) => .ok (stage.settle table)

end Stage

end KeywordBridge
