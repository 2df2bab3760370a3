import KeywordBridge.Keyword.Default
import KeywordBridge.Proofs.Session.Debounce
import Mathlib.Logic.Relation

/-!
# Closing is final

Closing a session advances its generation, empties the slot of its timer and sends
one empty set of markers. From then on the session rests: validations that were under
way find it closed when they come to publish, timers find their generation over, and
the host is refused whatever it asks for. All that may still change is the record of
which timers have run.

The close may come at any moment: while a validation is under way, while the host
handles markers, in particular the empty set that goes with another document, and
with timers armed. The runs are those in which anything may fail, before the close
and after it.
-/

namespace KeywordBridge

namespace Session

/-- The session is later as it was, apart from the record of which timers have
run. -/
structure RestsUntil (session later : Session) : Prop where
  same : later = { session with timers := later.timers }
  timers : later.timers.map Timer.fire = session.timers.map Timer.fire

namespace RestsUntil

theorem refl (session : Session) : session.RestsUntil session := ⟨rfl, rfl⟩

theorem trans {session later last : Session} (first : session.RestsUntil later)
    (second : later.RestsUntil last) : session.RestsUntil last where
  same := by
    rw [second.same, first.same]
  timers := second.timers.trans first.timers

theorem closed {session later : Session} (rests : session.RestsUntil later) :
    later.closed = session.closed := by
  rw [rests.same]

/-- Nothing else is recorded when a timer has run. -/
theorem fire (session : Session) (number : Nat) :
    session.RestsUntil
      { session with timers := session.timers.modify number Timer.fire } where
  same := rfl
  timers := by
    have again : ∀ timer : Timer, timer.fire.fire = timer.fire := fun _ => rfl
    apply List.ext_getElem?
    intro position
    rw [List.getElem?_map, List.getElem?_map, List.getElem?_modify]
    cases session.timers[position]? with
    | none => rfl
    | some timer =>
        by_cases here : number = position
        · simp [here, again]
        · simp [here]

/-- Every timer is later of the generation it was armed for. -/
theorem generation {session later : Session} (rests : session.RestsUntil later) {number : Nat}
    {timer : Timer} (armed : session.timers[number]? = some timer) :
    ∃ found, later.timers[number]? = some found ∧ found.generation = timer.generation := by
  have same := congrArg (·[number]?) rests.timers
  simp only [List.getElem?_map, armed, Option.map_some] at same
  obtain ⟨found, foundLater, equal⟩ := Option.map_eq_some_iff.1 same
  refine ⟨found, foundLater, ?_⟩
  rw [← Timer.fire_generation found, equal, Timer.fire_generation]

end RestsUntil

/-- Closing an open session empties the slot and the diagnostics and sends one empty
set of markers. -/
theorem closed_of_start_close {session : Session} {move : Move}
    (opened : session.closed = false) (done : session.start .close = .ok move) :
    move.session.closed = true ∧ move.session.pending = none ∧ move.session.diagnostics = [] ∧
      move.session.sent = session.sent ++ [[]] ∧ move.session.passes = session.passes ∧
      move.session.content = session.content := by
  cases begins_of_start done with
  | closeAgain closed =>
      rw [opened] at closed
      contradiction
  | close => simp [send, advance]

/-! ## Moves of a closed session -/

section

variable {session : Session} (closed : session.closed = true)

include closed

theorem start_change_of_closed (content : Content) :
    session.start (.change content) = .error .closed := by
  rw [start, if_pos closed]

theorem start_flush_of_closed : session.start .flush = .error .closed := by
  rw [start, if_pos closed]

theorem start_replace_of_closed (content : Content) :
    session.start (.replace content) = .error .closed := by
  rw [start, if_pos closed]

theorem start_close_of_closed : session.start .close = .ok { session } := by
  rw [start, if_pos closed]

theorem isCurrent_of_closed (generation : Nat) : session.isCurrent generation = false := by
  rw [isCurrent, closed, Bool.not_true, Bool.and_false]

/-- What still begins in a closed session leaves nothing to be done and is not
noticed. -/
theorem restsUntil_of_start {operation : Operation} {move : Move}
    (done : session.start operation = .ok move) :
    session.RestsUntil move.session ∧ move.task = none ∧ move.notice = .nothing := by
  cases begins_of_start done with
  | change content opened | flushNothing opened | flush opened | replace content opened
  | close opened =>
      rw [closed] at opened
      contradiction
  | closeAgain => exact ⟨.refl session, rfl, rfl⟩
  | fire number timer armed current =>
      rw [isCurrent_of_closed closed] at current
      contradiction
  | fireLate number timer armed late => exact ⟨.fire session number, rfl, rfl⟩

/-- A validation that was under way ends without its result being published. -/
theorem eq_of_perform_of_closed {table : Table} {task : Task} {move : Move}
    (done : session.perform table task = .ok move) :
    move.session = session ∧ move.notice ≠ .marking := by
  cases continues_of_perform done with
  | validate generation => exact ⟨rfl, Notice.noConfusion⟩
  | publish generation text current =>
      rw [isCurrent_of_closed closed] at current
      contradiction
  | drop generation text late => exact ⟨rfl, Notice.noConfusion⟩

end

end Session

namespace Run

/-- No step moves a closed session. -/
theorem restsUntil_of_step {table : Table} {run next : Run} (closed : run.session.closed = true)
    (step : StepOrFailure table run next) : run.session.RestsUntil next.session := by
  cases step with
  | start operation done => exact (Session.restsUntil_of_start closed done).1
  | fail remaining => exact .refl _
  | proceed done =>
      rw [(Session.eq_of_perform_of_closed closed done).1]
      exact .refl _

/-- However a run goes on, a closed session rests. -/
theorem restsUntil_of_closed {table : Table} {run later : Run}
    (closed : run.session.closed = true)
    (behind : Relation.ReflTransGen (StepOrFailure table) run later) :
    run.session.RestsUntil later.session := by
  induction behind with
  | refl => exact .refl _
  | tail _ step rests => exact rests.trans (restsUntil_of_step (rests.closed.trans closed) step)

theorem Arrives.trans {table : Table} {run later : Run} (arrives : Arrives table run)
    (behind : Relation.ReflTransGen (StepOrFailure table) run later) : Arrives table later := by
  induction behind with
  | refl => exact arrives
  | tail _ step reached => exact reached.step step

/-- Closing an open session, wherever a run has arrived, empties the slot and the
diagnostics and sends one empty set of markers. However the run goes on from there,
the session stays as the close has left it, apart from the record of which timers
have run, and none of them is live. No task in flight and no operation sends markers
any more or leaves a validation to be done; an edit, a validation on demand and
another document are refused, and closing again does nothing. -/
theorem session_closing {table : Table} {run later : Run} {move : Move}
    (arrives : Arrives table run) (opened : run.session.closed = false)
    (closes : run.session.start .close = .ok move)
    (behind : Relation.ReflTransGen (StepOrFailure table)
      ⟨move.session, move.task.toList ++ run.inFlight⟩ later) :
    (later.session.closed = true ∧ later.session.pending = none ∧
        later.session.diagnostics = [] ∧ later.session.sent = run.session.sent ++ [[]] ∧
        later.session.passes = run.session.passes ∧
        later.session.content = run.session.content) ∧
      later.session = { move.session with timers := later.session.timers } ∧
      later.session.timers.map Timer.fire = move.session.timers.map Timer.fire ∧
      (∀ timer ∈ later.session.timers, timer.isLive = false) ∧
      (∀ operation next, later.session.start operation = .ok next →
        next.task = none ∧ next.notice = .nothing) ∧
      (∀ task next, later.session.perform table task = .ok next →
        next.session = later.session ∧ next.notice ≠ .marking) ∧
      (∀ content, later.session.start (.change content) = .error .closed ∧
        later.session.start (.replace content) = .error .closed) ∧
      later.session.start .flush = .error .closed ∧
      later.session.start .close = .ok { session := later.session } := by
  obtain ⟨closed, idle, empty, sent, passes, content⟩ :=
    Session.closed_of_start_close opened closes
  have rests := restsUntil_of_closed closed behind
  have closedLater : later.session.closed = true := rests.closed.trans closed
  have idleLater : later.session.pending = none := by rw [rests.same, idle]
  have slot := ((arrives.step (.start .close closes)).trans behind).singleSlot
  refine ⟨⟨closedLater, idleLater, ?_, ?_, ?_, ?_⟩, rests.same, rests.timers, ?_, ?_, ?_, ?_,
    Session.start_flush_of_closed closedLater, Session.start_close_of_closed closedLater⟩
  · rw [rests.same, empty]
  · rw [rests.same, sent]
  · rw [rests.same, passes]
  · rw [rests.same, content]
  · intro timer armed
    rw [Bool.eq_false_iff]
    intro live
    obtain ⟨number, found⟩ := List.mem_iff_getElem?.1 armed
    have inSlot := slot.only number timer found live
    rw [idleLater] at inSlot
    contradiction
  · intro operation next done
    exact (Session.restsUntil_of_start closedLater done).2
  · intro task next done
    exact Session.eq_of_perform_of_closed closedLater done
  · intro content
    exact ⟨Session.start_change_of_closed closedLater content,
      Session.start_replace_of_closed closedLater content⟩

/-- While the first validation is under way, the buffer is edited and then another
document is loaded. The host closes the session at the empty set of markers that goes
with that document. Both validations end behind the close, and the timer of the edit,
which was cancelled, is run all the same. -/
theorem session_closing_nested :
    ∃ run move later, Arrives Table.default run ∧ run.session.closed = false ∧
      run.session.start .close = .ok move ∧
      Relation.ReflTransGen (StepOrFailure Table.default)
        ⟨move.session, move.task.toList ++ run.inFlight⟩ later ∧
      run.session.sent = [[]] ∧ run.inFlight.length = 2 ∧ later.inFlight = [] ∧
      later.session.timers = [{ generation := 1, cancelled := true, fired := true }] ∧
      later.session.sent = [[], []] ∧ later.session.passes = 0 ∧
      later.session.content = .text "x" ∧
      later.session.start .flush = .error .closed := by
  have unmoved {run : Run} (_ : Arrives Table.default run) :
      Relation.ReflTransGen (StepOrFailure Table.default) run run := .refl
  have opened : Arrives Table.default _ := .opening (.text "ukuba x")
  have reading := opened.step (.innermost rfl)
  have edited := reading.step (.start (.change (.text "enye")) rfl)
  have loaded := edited.step (.start (.replace (.text "x")) rfl)
  have closed := unmoved (loaded.step (.start .close rfl))
  have ended := ((closed.tail (.innermost rfl)).tail (.innermost rfl)).tail (.innermost rfl)
  have fired := ended.tail (.start (.fire 0) rfl)
  obtain ⟨⟨-, -, -, sent, passes, content⟩, -, -, -, -, -, -, flush, -⟩ :=
    session_closing loaded rfl rfl fired
  exact ⟨_, _, _, loaded, rfl, rfl, fired, rfl, rfl, rfl, rfl, sent, passes, content, flush⟩

end Run

end KeywordBridge
