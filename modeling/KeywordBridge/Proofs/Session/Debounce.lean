import KeywordBridge.Keyword.Default
import KeywordBridge.Proofs.Session.Run

/-!
# At most one timer is live

A session owes its host one validation for a burst of edits, and it keeps one slot
for the timer that will run it. The timer in the slot is the only one that is
still to run, and it was armed for the current generation. All others have run or
were overtaken: an operation that cancels a timer advances the generation along
with it, so a host that runs a cancelled timer all the same changes nothing.

The runs considered here may fail anywhere. The validation of a content that is no
text fails, an operation on a closed session is refused, and a host may fail while
it handles markers. A failure ends the operations around it as far as they do not
catch it, so some of the tasks in flight are never done.
-/

namespace KeywordBridge

namespace Timer

@[simp]
theorem cancel_generation (timer : Timer) : timer.cancel.generation = timer.generation := rfl

@[simp]
theorem fire_generation (timer : Timer) : timer.fire.generation = timer.generation := rfl

@[simp]
theorem cancel_isLive (timer : Timer) : timer.cancel.isLive = false := rfl

@[simp]
theorem fire_isLive (timer : Timer) : timer.fire.isLive = false := by
  simp [fire, isLive]

/-- After one timer was changed, every timer is an old one or the changed one. -/
theorem getElem?_modify_eq_some {timers : List Timer} {change : Timer → Timer}
    {number position : Nat} {timer : Timer}
    (found : (timers.modify number change)[position]? = some timer) :
    (position ≠ number ∧ timers[position]? = some timer) ∨
      position = number ∧ ∃ old, timers[position]? = some old ∧ change old = timer := by
  rw [List.getElem?_modify] at found
  obtain ⟨old, foundOld, became⟩ := Option.map_eq_some_iff.1 found
  by_cases changed : number = position
  · rw [if_pos changed] at became
    exact .inr ⟨changed.symm, old, foundOld, became⟩
  · rw [if_neg changed] at became
    exact .inl ⟨Ne.symm changed, foundOld.trans (congrArg some became)⟩

/-- Changing one timer in a way that keeps its generation keeps the generations of
all timers. -/
theorem map_generation_modify {change : Timer → Timer}
    (same : ∀ timer, (change timer).generation = timer.generation) (number : Nat)
    (timers : List Timer) :
    (timers.modify number change).map generation = timers.map generation := by
  apply List.ext_getElem?
  intro position
  rw [List.getElem?_map, List.getElem?_map, List.getElem?_modify]
  cases timers[position]? with
  | none => rfl
  | some timer =>
      by_cases changed : number = position
      · simp [changed, same]
      · simp [changed]

end Timer

namespace Session

/-- The slot of a session holds its live timer. -/
structure SingleSlot (session : Session) : Prop where
  /-- No two timers were armed for one generation. -/
  rising : (session.timers.map Timer.generation).Pairwise (· < ·)
  known : ∀ (number : Nat) (timer : Timer), session.timers[number]? = some timer →
    timer.generation ≤ session.generation
  /-- The generation of a cancelled timer is over. -/
  overtaken : ∀ (number : Nat) (timer : Timer), session.timers[number]? = some timer →
    timer.cancelled = true → timer.generation < session.generation
  /-- The slot holds a live timer of the current generation. -/
  held : ∀ number, session.pending = some number → ∃ timer,
    session.timers[number]? = some timer ∧ timer.isLive = true ∧
      timer.generation = session.generation
  /-- Every live timer is in the slot. -/
  only : ∀ (number : Nat) (timer : Timer), session.timers[number]? = some timer →
    timer.isLive = true → session.pending = some number
  closed : session.closed = true → session.pending = none

namespace SingleSlot

theorem opening (content : Content) : (new content).session.SingleSlot where
  rising := List.Pairwise.nil
  known := by simp [new]
  overtaken := by simp [new]
  held := by simp [new]
  only := by simp [new]
  closed := fun _ => rfl

variable {session : Session}

/-- Timers armed for one generation are one timer. -/
theorem eq_of_generation_eq (slot : session.SingleSlot) {first second : Nat}
    {timer other : Timer} (found : session.timers[first]? = some timer)
    (found' : session.timers[second]? = some other)
    (same : timer.generation = other.generation) : first = second := by
  obtain ⟨inRange, rfl⟩ := List.getElem?_eq_some_iff.1 found
  obtain ⟨inRange', rfl⟩ := List.getElem?_eq_some_iff.1 found'
  have rising := List.pairwise_iff_getElem.1 (List.pairwise_map.1 slot.rising)
  rcases Nat.lt_trichotomy first second with before | equal | after
  · have := rising first second inRange inRange' before
    omega
  · exact equal
  · have := rising second first inRange' inRange after
    omega

/-- A timer may be changed into one that is no longer live if it leaves the slot. -/
theorem retire (slot : session.SingleSlot) {next : Session} (number : Nat)
    (change : Timer → Timer)
    (timers : next.timers = session.timers.modify number change)
    (same : ∀ timer, (change timer).generation = timer.generation)
    (retired : ∀ timer, (change timer).isLive = false)
    (advanced : session.generation ≤ next.generation)
    (overtaken : ∀ timer, session.timers[number]? = some timer →
      (change timer).cancelled = true → timer.generation < next.generation)
    (held : ∀ other, next.pending = some other →
      session.pending = some other ∧ other ≠ number ∧ next.generation = session.generation)
    (only : ∀ other, session.pending = some other → other ≠ number →
      next.pending = some other)
    (closed : next.closed = true → next.pending = none) : next.SingleSlot where
  closed := closed
  rising := by
    rw [timers, Timer.map_generation_modify same]
    exact slot.rising
  known := by
    intro position timer found
    rw [timers] at found
    rcases Timer.getElem?_modify_eq_some found with ⟨-, old⟩ | ⟨-, old, foundOld, rfl⟩
    · exact Nat.le_trans (slot.known position timer old) advanced
    · rw [same]
      exact Nat.le_trans (slot.known position old foundOld) advanced
  overtaken := by
    intro position timer found cancelled
    rw [timers] at found
    rcases Timer.getElem?_modify_eq_some found with ⟨-, old⟩ | ⟨rfl, old, foundOld, rfl⟩
    · exact Nat.lt_of_lt_of_le (slot.overtaken position timer old cancelled) advanced
    · rw [same]
      exact overtaken old foundOld cancelled
  held := by
    intro other inSlot
    obtain ⟨inOldSlot, apart, sameGeneration⟩ := held other inSlot
    obtain ⟨timer, found, live, current⟩ := slot.held other inOldSlot
    refine ⟨timer, ?_, live, current.trans sameGeneration.symm⟩
    rw [timers, List.getElem?_modify_ne _ _ apart.symm]
    exact found
  only := by
    intro position timer found live
    rw [timers] at found
    rcases Timer.getElem?_modify_eq_some found with ⟨apart, old⟩ | ⟨-, old, -, rfl⟩
    · exact only position (slot.only position timer old live) apart
    · rw [retired] at live
      contradiction

/-- What cancels the pending timer advances the generation. -/
theorem advance (slot : session.SingleSlot) : session.cancelPending.advance.SingleSlot := by
  cases waiting : session.pending with
  | none =>
      have unchanged : session.cancelPending = session := by simp [cancelPending, waiting]
      rw [unchanged]
      exact {
        rising := slot.rising
        known := fun number timer found => Nat.le_succ_of_le (slot.known number timer found)
        overtaken := fun number timer found _ =>
          Nat.lt_succ_of_le (slot.known number timer found)
        held := fun number inSlot => by
          rw [show session.advance.pending = none from waiting] at inSlot
          contradiction
        only := slot.only
        closed := slot.closed }
  | some pending =>
      apply slot.retire pending Timer.cancel
      · simp [cancelPending, waiting, Session.advance]
      · exact Timer.cancel_generation
      · exact Timer.cancel_isLive
      · simp [Session.advance]
      · intro timer found _
        simpa [Session.advance] using Nat.lt_succ_of_le (slot.known pending timer found)
      · intro other inSlot
        simp [Session.advance] at inSlot
      · intro other inSlot apart
        rw [waiting] at inSlot
        exact absurd (Option.some.inj inSlot).symm apart
      · simp [Session.advance]

/-- Once the generation has advanced, all timers are of an earlier one. -/
theorem earlier (slot : session.SingleSlot) {number : Nat} {timer : Timer}
    (found : session.cancelPending.advance.timers[number]? = some timer) :
    timer.generation < session.cancelPending.advance.generation := by
  have same : session.cancelPending.advance.timers.map Timer.generation =
      session.timers.map Timer.generation := by
    unfold cancelPending
    split
    · rfl
    · exact Timer.map_generation_modify Timer.cancel_generation _ _
  have generation : (session.timers.map Timer.generation)[number]? = some timer.generation := by
    rw [← same, List.getElem?_map, found]
    rfl
  rw [List.getElem?_map] at generation
  obtain ⟨old, foundOld, equal⟩ := Option.map_eq_some_iff.1 generation
  have known := slot.known number old foundOld
  simp only [Session.advance, cancelPending_generation]
  omega

/-- A timer may be armed in an empty slot for a generation that has none yet. -/
theorem arm (slot : session.SingleSlot) (opened : session.closed = false)
    (idle : session.pending = none)
    (unused : ∀ (number : Nat) (timer : Timer), session.timers[number]? = some timer →
      timer.generation < session.generation) : session.arm.SingleSlot := by
  have oldOrNew : ∀ (number : Nat) (timer : Timer), session.arm.timers[number]? = some timer →
      session.timers[number]? = some timer ∨
        number = session.timers.length ∧ timer = { generation := session.generation } := by
    intro number timer found
    rw [Session.arm, List.getElem?_append] at found
    split at found
    · exact .inl found
    · obtain ⟨inRange, rfl⟩ := List.getElem?_eq_some_iff.1 found
      rw [List.length_singleton] at inRange
      exact .inr ⟨by omega, List.getElem_singleton _⟩
  refine {
    rising := ?_, known := ?_, overtaken := ?_, held := ?_, only := ?_
    closed := fun closed => by simp [Session.arm, opened] at closed }
  · show ((session.timers ++ [_]).map Timer.generation).Pairwise (· < ·)
    rw [List.map_append, List.pairwise_append]
    refine ⟨slot.rising, List.pairwise_singleton _ _, ?_⟩
    intro generation older newest member
    obtain ⟨timer, armed, rfl⟩ := List.mem_map.1 older
    obtain rfl := List.mem_singleton.1 member
    obtain ⟨number, found⟩ := List.mem_iff_getElem?.1 armed
    exact unused number timer found
  · intro number timer found
    rcases oldOrNew number timer found with old | ⟨-, rfl⟩
    · exact slot.known number timer old
    · exact Nat.le_refl _
  · intro number timer found cancelled
    rcases oldOrNew number timer found with old | ⟨-, rfl⟩
    · exact slot.overtaken number timer old cancelled
    · contradiction
  · intro number inSlot
    obtain rfl := Option.some.inj inSlot
    exact ⟨{ generation := session.generation }, by simp [Session.arm], rfl, rfl⟩
  · intro number timer found live
    rcases oldOrNew number timer found with old | ⟨rfl, -⟩
    · have inSlot := slot.only number timer old live
      rw [idle] at inSlot
      contradiction
    · rfl

/-- A timer may run if what is left in the slot is what was in it besides this timer. -/
theorem fireLeaving (slot : session.SingleSlot) (number : Nat) {pending : Option Nat}
    (left : ∀ other, pending = some other ↔ session.pending = some other ∧ other ≠ number) :
    SingleSlot { session with
      timers := session.timers.modify number Timer.fire
      pending } := by
  apply slot.retire number Timer.fire
  · rfl
  · exact Timer.fire_generation
  · exact Timer.fire_isLive
  · exact Nat.le_refl _
  · intro other found cancelled
    exact slot.overtaken number other found cancelled
  · intro other inSlot
    obtain ⟨inOldSlot, apart⟩ := (left other).1 inSlot
    exact ⟨inOldSlot, apart, rfl⟩
  · intro other inSlot apart
    exact (left other).2 ⟨inSlot, apart⟩
  · intro closed
    rw [Option.eq_none_iff_forall_ne_some]
    intro other inSlot
    have inOldSlot := ((left other).1 inSlot).1
    rw [slot.closed closed] at inOldSlot
    contradiction

/-- When a timer of the current generation runs, the slot is emptied. Nothing else can
be in it, since a timer of the current generation would be the same timer. -/
theorem fire (slot : session.SingleSlot) {number : Nat} {timer : Timer}
    (armed : session.timers[number]? = some timer)
    (current : timer.generation = session.generation) :
    SingleSlot { session with
      timers := session.timers.modify number Timer.fire
      pending := none } := by
  apply slot.fireLeaving number
  intro other
  refine iff_of_false (Option.some_ne_none other).symm ?_
  rintro ⟨inSlot, apart⟩
  obtain ⟨live, found, -, currentLive⟩ := slot.held other inSlot
  exact apart (slot.eq_of_generation_eq found armed (currentLive.trans current.symm))

/-- When a timer runs late, only its own record changes. -/
theorem fireLate (slot : session.SingleSlot) {number : Nat} {timer : Timer}
    (armed : session.timers[number]? = some timer)
    (late : session.isCurrent timer.generation = false) :
    SingleSlot { session with timers := session.timers.modify number Timer.fire } := by
  apply slot.fireLeaving number
  intro other
  refine (and_iff_left_of_imp ?_).symm
  rintro inSlot rfl
  obtain ⟨live, found, -, current⟩ := slot.held other inSlot
  obtain rfl := Option.some.inj (found.symm.trans armed)
  cases closed : session.closed with
  | false =>
      rw [(session.isCurrent_iff _).2 ⟨current, closed⟩] at late
      contradiction
  | true =>
      rw [slot.closed closed] at inSlot
      contradiction

/-- The first move of an operation keeps the slot. -/
theorem start (slot : session.SingleSlot) {operation : Operation} {move : Move}
    (done : session.start operation = .ok move) : move.session.SingleSlot := by
  cases begins_of_start done with
  | change content opened =>
      have edited : SingleSlot { session with content } := { slot with }
      apply edited.advance.arm
      · simpa [Session.advance] using opened
      · simp [Session.advance]
      · intro number timer found
        exact edited.earlier found
  | flush opened timer waiting => exact slot.advance
  | replace content opened => exact { slot.advance with }
  | close opened =>
      have idle : session.cancelPending.advance.pending = none := by simp [Session.advance]
      exact { slot.advance with closed := fun _ => idle }
  | fire number timer armed current =>
      exact slot.fire armed ((session.isCurrent_iff _).1 current).1
  | fireLate number timer armed late => exact slot.fireLate armed late
  | flushNothing | closeAgain => exact slot

/-- Doing a task touches neither the timers nor the slot. -/
theorem perform (slot : session.SingleSlot) {table : Table} {task : Task} {move : Move}
    (done : session.perform table task = .ok move) : move.session.SingleSlot := by
  cases continues_of_perform done with
  | validate generation => exact slot
  | publish generation text current => exact { slot with }
  | drop generation text late => exact slot

/-- No two timers are live. -/
theorem countP_isLive_le_one (slot : session.SingleSlot) :
    session.timers.countP Timer.isLive ≤ 1 := by
  rw [List.countP_eq_length_filter]
  have rising : (session.timers.filter Timer.isLive).Pairwise
      fun earlier later => earlier.generation < later.generation :=
    (List.pairwise_map.1 slot.rising).filter _
  have current : ∀ timer ∈ session.timers.filter Timer.isLive,
      timer.generation = session.generation := by
    intro timer member
    obtain ⟨armed, live⟩ := List.mem_filter.1 member
    obtain ⟨number, found⟩ := List.mem_iff_getElem?.1 armed
    obtain ⟨held, foundHeld, -, current⟩ := slot.held number (slot.only number timer found live)
    obtain rfl := Option.some.inj (foundHeld.symm.trans found)
    exact current
  match session.timers.filter Timer.isLive, rising, current with
  | [], _, _ => exact Nat.zero_le 1
  | [_], _, _ => exact Nat.le_refl 1
  | first :: second :: others, rising, current =>
      have less := (List.pairwise_cons.1 rising).1 second List.mem_cons_self
      rw [current first (by simp), current second (by simp)] at less
      exact absurd less (Nat.lt_irrefl _)

/-- A cancelled timer that is run all the same leaves no trace but the record of its
having run. -/
theorem start_fire_of_cancelled (slot : session.SingleSlot) {number : Nat} {timer : Timer}
    (armed : session.timers[number]? = some timer) (cancelled : timer.cancelled = true) :
    session.start (.fire number) =
      .ok { session := { session with timers := session.timers.modify number Timer.fire } } := by
  have past : timer.generation ≠ session.generation :=
    Nat.ne_of_lt (slot.overtaken number timer armed cancelled)
  have late : isCurrent { session with timers := session.timers.modify number Timer.fire }
      timer.generation = false := by
    simp [isCurrent, past]
  simp only [Session.start, armed, late]
  rfl

end SingleSlot

end Session

namespace Run

/-! ## Runs that may fail -/

/-- One step of a run in which the host, the validation or an operation may fail. -/
inductive StepOrFailure (table : Table) : Run → Run → Prop
  /-- An operation begins, whatever is in flight. -/
  | start {session : Session} {tasks : List Task} {move : Move} (operation : Operation)
      (done : session.start operation = .ok move) :
      StepOrFailure table ⟨session, tasks⟩ ⟨move.session, move.task.toList ++ tasks⟩
  /-- Something fails, and with it some of the operations that are under way. -/
  | fail {session : Session} {tasks kept : List Task} (remaining : kept.Sublist tasks) :
      StepOrFailure table ⟨session, tasks⟩ ⟨session, kept⟩
  /-- A task in flight goes on. -/
  | proceed {session : Session} {earlier later : List Task} {task : Task} {move : Move}
      (done : session.perform table task = .ok move) :
      StepOrFailure table ⟨session, earlier ++ task :: later⟩
        ⟨move.session, earlier ++ move.task.toList ++ later⟩

/-- The task of the innermost operation may go on first. -/
theorem StepOrFailure.innermost {table : Table} {session : Session} {tasks : List Task}
    {task : Task} {move : Move} (done : session.perform table task = .ok move) :
    StepOrFailure table ⟨session, task :: tasks⟩ ⟨move.session, move.task.toList ++ tasks⟩ :=
  @StepOrFailure.proceed table session [] tasks task move done

/-- What a run arrives at that begins with any content and may fail anywhere. -/
inductive Arrives (table : Table) : Run → Prop
  | opening (content : Content) :
      Arrives table ⟨(Session.new content).session, (Session.new content).task.toList⟩
  | step {run later : Run} (reached : Arrives table run) (next : StepOrFailure table run later) :
      Arrives table later

/-- Runs over texts that fail only when the session is closed are among them. -/
theorem Reachable.arrives {table : Table} {run : Run} (reachable : Reachable table run) :
    Arrives table run := by
  induction reachable with
  | opening text => exact .opening (.text text)
  | step _ next reached =>
      cases next with
      | start operation _ done => exact reached.step (.start operation done)
      | refuse _ remaining => exact reached.step (.fail remaining)
      | proceed done => exact reached.step (.proceed done)

theorem Arrives.singleSlot {table : Table} {run : Run} (arrives : Arrives table run) :
    run.session.SingleSlot := by
  induction arrives with
  | opening content => exact .opening content
  | step _ next slot =>
      cases next with
      | start operation done => exact slot.start done
      | fail remaining => exact slot
      | proceed done => exact slot.perform done

/-- Wherever a run arrives, whatever operations interrupt each other and whatever
fails: at most one of the timers armed so far is live, there is a live timer exactly
if a validation is pending, and that timer is the pending one and of the current
generation. Running a timer that was cancelled changes nothing but the record that it
has run, asks for no validation and sends no markers. -/
theorem session_debounce {table : Table} {run : Run} (arrives : Arrives table run) :
    run.session.timers.countP Timer.isLive ≤ 1 ∧
      ((∃ timer ∈ run.session.timers, timer.isLive = true) ↔
        run.session.pending.isSome = true) ∧
      (∀ (number : Nat) (timer : Timer), run.session.timers[number]? = some timer →
        timer.isLive = true →
        run.session.pending = some number ∧ timer.generation = run.session.generation) ∧
      ∀ (number : Nat) (timer : Timer), run.session.timers[number]? = some timer →
        timer.cancelled = true →
        run.session.start (.fire number) = .ok {
          session := { run.session with
            timers := run.session.timers.modify number Timer.fire }
          task := none
          notice := .nothing } := by
  have slot := arrives.singleSlot
  refine ⟨slot.countP_isLive_le_one, ⟨?_, ?_⟩, ?_, ?_⟩
  · rintro ⟨timer, armed, live⟩
    obtain ⟨number, found⟩ := List.mem_iff_getElem?.1 armed
    rw [slot.only number timer found live]
    rfl
  · intro pending
    obtain ⟨number, inSlot⟩ := Option.isSome_iff_exists.1 pending
    obtain ⟨timer, found, live, -⟩ := slot.held number inSlot
    exact ⟨timer, List.mem_of_getElem? found, live⟩
  · intro number timer found live
    have inSlot := slot.only number timer found live
    obtain ⟨held, foundHeld, -, current⟩ := slot.held number inSlot
    obtain rfl := Option.some.inj (foundHeld.symm.trans found)
    exact ⟨inSlot, current⟩
  · intro number timer armed cancelled
    exact slot.start_fire_of_cancelled armed cancelled

/-- A session is opened, and while its first validation is under way, the buffer is
edited twice. Then the host fails at the markers of that validation. The second edit
has cancelled the timer of the first. -/
theorem session_debounce_edited_twice :
    ∃ run, Arrives Table.default run ∧ run.session.pending = some 1 ∧
      run.session.timers =
        [{ generation := 1, cancelled := true }, { generation := 2 }] ∧
      run.session.timers.countP Timer.isLive ≤ 1 ∧
      run.session.start (.fire 0) = .ok {
        session := { run.session with timers := run.session.timers.modify 0 Timer.fire } } := by
  have opened : Arrives Table.default _ := .opening (.text "ukuba x")
  have reading := opened.step (.innermost rfl)
  have edited := reading.step (.start (.change (.text "x")) rfl)
  have editedAgain := edited.step (.start (.change (.text "enye")) rfl)
  have failed := editedAgain.step (.fail (List.nil_sublist _))
  have debounced := session_debounce failed
  exact ⟨_, failed, rfl, rfl, debounced.1, debounced.2.2.2 0 _ rfl rfl⟩

end Run

end KeywordBridge
