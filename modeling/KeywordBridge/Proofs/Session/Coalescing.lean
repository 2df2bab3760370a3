import KeywordBridge.Keyword.Default
import KeywordBridge.Proofs.Session.Closing
import KeywordBridge.Session.Script

/-!
# Edits are coalesced and no validation is lost

While no operation interrupts another, a validation that has started is published
before the session is touched again. How many validations are published can then be
read off the operations: one for the opening, one for each replacement, one for each
validation on demand that finds a timer pending, and one for each live timer that
runs. A timer that was cancelled counts for nothing, in whatever order the timers
run, so a burst of edits costs a single validation, and that one is of the last text.

The operations are carried out by the agenda of a stage on which no reaction waits.
A host may run the timers whenever it likes and need not heed that they were
cancelled, but it runs none of them twice.
-/

namespace KeywordBridge

/-- The timer that an operation runs, if it runs one. -/
def Operation.timer? : Operation → Option Nat
  | fire number => some number
  | _ => none

/-- An operation with the session that it finds. -/
structure Call where
  session : Session
  operation : Operation

namespace Call

/-- Does another document take the place of the content? -/
def replaces : Call → Bool
  | ⟨_, .replace _⟩ => true
  | _ => false

/-- Is a validation asked for while one is pending? -/
def flushesPending : Call → Bool
  | ⟨session, .flush⟩ => session.pending.isSome
  | _ => false

/-- Does a timer run that is live? -/
def firesLive : Call → Bool
  | ⟨session, .fire number⟩ => session.timers[number]?.any (·.isLive)
  | _ => false

/-- The validations that are published for a call. -/
def validations (call : Call) : Nat :=
  (if call.replaces then 1 else 0) + (if call.flushesPending then 1 else 0) +
    (if call.firesLive then 1 else 0)

variable (session : Session)

@[simp]
theorem validations_change (content : Content) :
    validations ⟨session, .change content⟩ = 0 := rfl

@[simp]
theorem validations_replace (content : Content) :
    validations ⟨session, .replace content⟩ = 1 := rfl

@[simp]
theorem validations_flush :
    validations ⟨session, .flush⟩ = session.pending.isSome.toNat := by
  cases waiting : session.pending <;>
    simp [validations, replaces, flushesPending, firesLive, waiting]

@[simp]
theorem validations_fire (number : Nat) :
    validations ⟨session, .fire number⟩ =
      (session.timers[number]?.any (·.isLive)).toNat := by
  cases live : session.timers[number]?.any (·.isLive) <;>
    simp [validations, replaces, flushesPending, firesLive, live]

end Call

namespace Session

/-- The session after the diagnostics of a text have been published. -/
def published (table : Table) (session : Session) (text : Text) : Session :=
  { session with passes := session.passes + 1 }.send (table.validate text)

/-- The sessions that operations leave behind when nothing comes between their moves. -/
inductive Completes (table : Table) (session : Session) (operation : Operation) : Session → Prop
  | refused (cause : SessionError) (refusal : session.start operation = .error cause) :
      Completes table session operation session
  | quiet (move : Move) (done : session.start operation = .ok move) (idle : move.task = none) :
      Completes table session operation move.session
  | validated (move : Move) (text : Text) (done : session.start operation = .ok move)
      (asks : move.task ≠ none) (content : move.session.content = .text text) :
      Completes table session operation (move.session.published table text)

/-- An open session over a text, whose slot holds its live timer. -/
structure IsAtWork (session : Session) : Prop where
  opened : session.closed = false
  isText : ∃ text, session.content = .text text
  slot : session.SingleSlot

/-- A timer has not run, if it has been armed at all. -/
def Unfired (session : Session) (number : Nat) : Prop :=
  ∀ timer, session.timers[number]? = some timer → timer.fired = false

namespace Unfired

variable {session : Session} {number : Nat}

theorem cancelPending (unfired : session.Unfired number) :
    session.cancelPending.Unfired number := by
  unfold Session.cancelPending
  split
  · exact unfired
  · intro timer found
    rcases Timer.getElem?_modify_eq_some found with ⟨-, old⟩ | ⟨-, old, foundOld, rfl⟩
    · exact unfired timer old
    · exact unfired old foundOld

theorem advance (unfired : session.Unfired number) : session.advance.Unfired number :=
  unfired

theorem arm (unfired : session.Unfired number) : session.arm.Unfired number := by
  intro timer found
  rw [Session.arm, List.getElem?_append] at found
  split at found
  · exact unfired timer found
  · obtain ⟨inRange, rfl⟩ := List.getElem?_eq_some_iff.1 found
    rw [List.getElem_singleton]

theorem fire (unfired : session.Unfired number) {other : Nat} (apart : number ≠ other) :
    Unfired { session with timers := session.timers.modify other Timer.fire } number := by
  intro timer found
  rcases Timer.getElem?_modify_eq_some found with ⟨-, old⟩ | ⟨same, -⟩
  · exact unfired timer old
  · exact absurd same apart

/-- An operation that does not run the timer leaves it unfired. -/
theorem start (unfired : session.Unfired number) {operation : Operation} {move : Move}
    (done : session.start operation = .ok move) (apart : operation.timer? ≠ some number) :
    move.session.Unfired number := by
  cases begins_of_start done with
  | change content opened =>
      have edited : Unfired { session with content } number := unfired
      exact edited.cancelPending.advance.arm
  | flush | replace | close => exact unfired.cancelPending.advance
  | fire other | fireLate other =>
      exact unfired.fire fun same => apart (congrArg some same.symm)
  | flushNothing | closeAgain => exact unfired

theorem of_completes (unfired : session.Unfired number) {table : Table} {operation : Operation}
    {next : Session} (completes : Completes table session operation next)
    (apart : operation.timer? ≠ some number) : next.Unfired number := by
  cases completes with
  | refused => exact unfired
  | quiet move done => exact unfired.start done apart
  | validated move text done => exact unfired.start done apart

end Unfired

namespace IsAtWork

variable {table : Table} {session next : Session} {operation : Operation}

/-- A validation that an operation leaves to be done is still wanted. -/
theorem isCurrent_of_start (work : session.IsAtWork) {move : Move} {task : Task}
    (done : session.start operation = .ok move) (asks : move.task = some task) :
    ∃ generation, task = .validate generation ∧ move.session.isCurrent generation = true := by
  cases begins_of_start done with
  | flush | replace =>
      cases asks
      exact ⟨_, rfl, by simp [isCurrent_iff, advance, send, work.opened]⟩
  | fire number timer armed current =>
      cases asks
      exact ⟨_, rfl, current⟩
  | change | flushNothing | closeAgain | close | fireLate => contradiction

/-- Only the close takes a session from work. -/
theorem of_start (work : session.IsAtWork) {move : Move}
    (done : session.start operation = .ok move) (brings : operation.BringsText)
    (stays : operation ≠ .close) : move.session.IsAtWork := by
  refine ⟨?_, ?_, work.slot.start done⟩
  · cases begins_of_start done with
    | close | closeAgain => contradiction
    | _ => simp [advance, arm, send, work.opened]
  · cases begins_of_start done with
    | change content | replace content =>
        obtain ⟨text, rfl⟩ : ∃ text, content = .text text := brings
        simp [advance, arm, send]
    | _ => simpa [advance, send] using work.isText

theorem of_completes (work : session.IsAtWork)
    (completes : Completes table session operation next) (brings : operation.BringsText)
    (stays : operation ≠ .close) : next.IsAtWork := by
  cases completes with
  | refused => exact work
  | quiet move done => exact work.of_start done brings stays
  | validated move text done =>
      have ⟨opened, isText, slot⟩ := work.of_start done brings stays
      exact ⟨opened, isText, { slot with }⟩

/-- A timer that has not run is live exactly as long as it is of the current generation. -/
theorem isCurrent_eq_isLive (work : session.IsAtWork) {number : Nat} {timer : Timer}
    (armed : session.timers[number]? = some timer) (unfired : timer.fired = false) :
    session.isCurrent timer.generation = timer.isLive := by
  cases live : timer.isLive with
  | true =>
      obtain ⟨held, found, -, current⟩ :=
        work.slot.held number (work.slot.only number timer armed live)
      obtain rfl := Option.some.inj (found.symm.trans armed)
      exact (isCurrent_iff _ _).2 ⟨current, work.opened⟩
  | false =>
      have cancelled : timer.cancelled = true := by simpa [Timer.isLive, unfired] using live
      have past := work.slot.overtaken number timer armed cancelled
      simp [isCurrent, Nat.ne_of_lt past]

/-- One operation publishes as many validations as its call counts for. -/
theorem passes_of_completes (work : session.IsAtWork)
    (completes : Completes table session operation next) (stays : operation ≠ .close)
    (unfired : ∀ number, operation.timer? = some number → session.Unfired number) :
    next.passes = session.passes + Call.validations ⟨session, operation⟩ := by
  cases completes with
  | refused cause refusal =>
      cases operation with
      | fire number =>
          -- An open session refuses to run a timer only when there is none.
          cases armed : session.timers[number]? with
          | none => simp [armed]
          | some timer =>
              simp only [start, armed] at refusal
              split at refusal <;> contradiction
      | flush =>
          cases waiting : session.pending <;> simp [start, work.opened, waiting] at refusal
      | close => contradiction
      | _ => simp [start, work.opened] at refusal
  | quiet move done idle =>
      cases begins_of_start done with
      | change => simp [advance, arm]
      | flushNothing opened nothing => simp [nothing]
      | fireLate number timer armed late =>
          have := work.isCurrent_eq_isLive armed (unfired number rfl timer armed)
          simp [armed, ← this, late]
      | close | closeAgain => contradiction
      | flush | replace | fire => contradiction
  | validated move text done asks content =>
      cases begins_of_start done with
      | flush opened timer waiting => simp [advance, published, send, waiting]
      | replace => simp [advance, published, send]
      | fire number timer armed current =>
          have := work.isCurrent_eq_isLive armed (unfired number rfl timer armed)
          simp [published, send, armed, ← this, current]
      | change | flushNothing | closeAgain | close | fireLate => contradiction

/-- An edit arms a timer and publishes nothing. -/
theorem change_of_completes (work : session.IsAtWork) {content : Content}
    (completes : Completes table session (.change content) next) :
    next.content = content ∧ next.pending.isSome = true ∧ next.passes = session.passes ∧
      next.sent = session.sent := by
  cases completes with
  | refused cause refusal => simp [start, work.opened] at refusal
  | quiet move done =>
      cases begins_of_start done with
      | change => simp [advance, arm]
  | validated move text done asks =>
      cases begins_of_start done with
      | change => contradiction

/-- While the timer of the current generation waits, every other timer runs late. -/
theorem restsUntil_of_completes (work : session.IsAtWork) {number other : Nat} {timer : Timer}
    (armed : session.timers[number]? = some timer)
    (current : timer.generation = session.generation) (apart : other ≠ number)
    (completes : Completes table session (.fire other) next) : session.RestsUntil next := by
  have notCurrent {found : Timer} (foundArmed : session.timers[other]? = some found) :
      session.isCurrent found.generation ≠ true := by
    intro alsoCurrent
    have same := ((isCurrent_iff _ _).1 alsoCurrent).1.trans current.symm
    exact apart (work.slot.eq_of_generation_eq foundArmed armed same)
  cases completes with
  | refused => exact .refl session
  | quiet move done =>
      cases begins_of_start done with
      | fire => contradiction
      | fireLate => exact .fire session other
  | validated move text done asks =>
      cases begins_of_start done with
      | fire _ _ foundArmed alsoCurrent => exact absurd alsoCurrent (notCurrent foundArmed)
      | fireLate => contradiction

/-- When the pending timer runs, the content is published. -/
theorem fire_of_completes (work : session.IsAtWork) {number : Nat} {text : Text}
    (content : session.content = .text text) (waiting : session.pending = some number)
    (completes : Completes table session (.fire number) next) :
    next = published table
      { session with timers := session.timers.modify number Timer.fire, pending := none } text := by
  obtain ⟨timer, armed, -, current⟩ := work.slot.held number waiting
  have wanted := (isCurrent_iff _ _).2 ⟨current, work.opened⟩
  cases completes with
  | refused cause refusal =>
      simp only [start, armed] at refusal
      split at refusal <;> contradiction
  | quiet move done idle =>
      cases begins_of_start done with
      | fire => contradiction
      | fireLate _ late lateArmed notCurrent =>
          obtain rfl := Option.some.inj (lateArmed.symm.trans armed)
          rw [wanted] at notCurrent
          contradiction
  | validated move read done asks isRead =>
      cases begins_of_start done with
      | fire =>
          obtain rfl := Content.text.inj (isRead.symm.trans content)
          rfl
      | fireLate => contradiction

end IsAtWork

end Session

namespace Stage

variable (table : Table) {stage : Stage}

/-- Carry out operations one after the other. One that is refused changes nothing. -/
def play (table : Table) (stage : Stage) (operations : List Operation) : Stage :=
  operations.foldl (fun stage operation => (stage.run table [.operation operation]).1) stage

/-- The operations with the sessions that they find when they are carried out one
after the other. -/
def calls (table : Table) (stage : Stage) : List Operation → List Call
  | [] => []
  | operation :: rest =>
      ⟨stage.session, operation⟩ :: calls table (stage.play table [operation]) rest

/-- No reaction waits, so nothing comes between the moves of an operation. -/
structure IsPlain (stage : Stage) : Prop where
  onValidation : stage.onValidation = none
  onMarkers : stage.onMarkers = none

theorem play_cons (operation : Operation) (rest : List Operation) :
    stage.play table (operation :: rest) = (stage.play table [operation]).play table rest :=
  rfl

theorem play_append (first second : List Operation) :
    stage.play table (first ++ second) = (stage.play table first).play table second :=
  List.foldl_append

/-! ## One operation on a plain stage -/

/-- Behind a move on a plain stage there is only the task that it leaves. -/
theorem IsPlain.after (plain : stage.IsPlain) (move : Move) :
    stage.after move [] =
      ({ stage with session := move.session }, (move.task.map Item.task).toList) := by
  obtain ⟨session, scheduler, onValidation, onMarkers⟩ := stage
  obtain ⟨rfl, rfl⟩ := plain
  cases notice : move.notice <;> simp [Stage.after, react, notice]

theorem IsPlain.withSession (plain : stage.IsPlain) (session : Session) :
    IsPlain { stage with session } :=
  ⟨plain.onValidation, plain.onMarkers⟩

theorem run_nil : stage.run table [] = (stage, none) := by
  rw [run]

theorem run_operation_of_error {operation : Operation} {cause : SessionError}
    (refusal : stage.session.start operation = .error cause) :
    stage.run table [.operation operation] = (stage, some (.session cause)) := by
  rw [run]
  split
  · rename_i other refused
    cases refusal.symm.trans refused
    rfl
  · rename_i move done
    cases refusal.symm.trans done

theorem run_operation_of_ok (plain : stage.IsPlain) {operation : Operation} {move : Move}
    (done : stage.session.start operation = .ok move) :
    stage.run table [.operation operation] =
      run table { stage with session := move.session } (move.task.map Item.task).toList := by
  rw [run]
  split
  · rename_i cause refusal
    cases done.symm.trans refusal
  · rename_i other started
    cases done.symm.trans started
    rw [plain.after]

theorem run_task_of_ok (plain : stage.IsPlain) {task : Task} {move : Move}
    (done : stage.session.perform table task = .ok move) :
    stage.run table [.task task] =
      run table { stage with session := move.session } (move.task.map Item.task).toList := by
  rw [run]
  split
  · rename_i cause failure
    cases done.symm.trans failure
  · rename_i other goesOn
    cases done.symm.trans goesOn
    rw [plain.after]

/-- A validation that is still wanted when it starts is published. -/
theorem run_validate (plain : stage.IsPlain) {generation : Nat} {text : Text}
    (current : stage.session.isCurrent generation = true)
    (content : stage.session.content = .text text) :
    stage.run table [.task (.validate generation)] =
      ({ stage with session := stage.session.published table text }, none) := by
  rw [run_task_of_ok table plain rfl, content]
  show run table stage [.task (.publish generation (.text text))] = _
  rw [run_task_of_ok table plain (by rw [perform_publish_text, if_pos current])]
  exact run_nil table

/-- An operation that leaves nothing to be done is done with its first move. -/
theorem play_cons_of_quiet (plain : stage.IsPlain) {operation : Operation} {move : Move}
    (done : stage.session.start operation = .ok move) (idle : move.task = none)
    (rest : List Operation) :
    stage.play table (operation :: rest) =
      play table { stage with session := move.session } rest := by
  show (stage.run table [.operation operation]).1.play table rest = _
  rw [run_operation_of_ok table plain done, idle]
  show (run table _ []).1.play table rest = _
  rw [run_nil]

/-- An operation that asks for a validation is done when that is published. -/
theorem play_cons_of_validated (plain : stage.IsPlain) {operation : Operation} {move : Move}
    {generation : Nat} {text : Text} (done : stage.session.start operation = .ok move)
    (asks : move.task = some (.validate generation))
    (current : move.session.isCurrent generation = true)
    (content : move.session.content = .text text) (rest : List Operation) :
    stage.play table (operation :: rest) =
      play table { stage with session := move.session.published table text } rest := by
  show (stage.run table [.operation operation]).1.play table rest = _
  rw [run_operation_of_ok table plain done, asks]
  show (run table _ [.task (.validate generation)]).1.play table rest = _
  rw [run_validate table (plain.withSession move.session) current content]

/-- On a plain stage an operation completes before the next one comes. -/
theorem exists_completes (operation : Operation) (plain : stage.IsPlain)
    (work : stage.session.IsAtWork) (brings : operation.BringsText)
    (stays : operation ≠ .close) :
    ∃ next, Session.Completes table stage.session operation next ∧
      stage.play table [operation] = { stage with session := next } := by
  cases began : stage.session.start operation with
  | error cause =>
      exact ⟨_, .refused cause began, congrArg Prod.fst (run_operation_of_error table began)⟩
  | ok move =>
      cases asks : move.task with
      | none => exact ⟨_, .quiet move began asks, play_cons_of_quiet table plain began asks []⟩
      | some task =>
          obtain ⟨generation, rfl, current⟩ := work.isCurrent_of_start began asks
          obtain ⟨text, content⟩ := (work.of_start began brings stays).isText
          exact ⟨_, .validated move text began (by simp [asks]) content,
            play_cons_of_validated table plain began asks current content []⟩

/-! ## Plays -/

/-- Whatever operations are carried out, a session that is not closed stays at work. -/
theorem isAtWork_play (plain : stage.IsPlain) (work : stage.session.IsAtWork)
    {operations : List Operation} (brings : ∀ operation ∈ operations, operation.BringsText)
    (stays : .close ∉ operations) :
    (stage.play table operations).IsPlain ∧ (stage.play table operations).session.IsAtWork := by
  induction operations generalizing stage with
  | nil => exact ⟨plain, work⟩
  | cons operation rest ih =>
      obtain ⟨bringsFirst, bringsRest⟩ := List.forall_mem_cons.1 brings
      obtain ⟨stays, staysRest⟩ := List.ne_and_not_mem_of_not_mem_cons stays
      obtain ⟨next, completes, became⟩ :=
        exists_completes table operation plain work bringsFirst stays.symm
      rw [play_cons, became]
      exact ih (plain.withSession next) (work.of_completes completes bringsFirst stays.symm)
        bringsRest staysRest

/-- Operations publish as many validations as their calls count for, provided that the
timers which they run have not run before and that they run none of them twice. -/
theorem passes_play (plain : stage.IsPlain) (work : stage.session.IsAtWork)
    {operations : List Operation} (brings : ∀ operation ∈ operations, operation.BringsText)
    (stays : .close ∉ operations) (once : (operations.filterMap Operation.timer?).Nodup)
    (unfired : ∀ operation ∈ operations, ∀ number, operation.timer? = some number →
      stage.session.Unfired number) :
    (stage.play table operations).session.passes =
      stage.session.passes + (stage.calls table operations).countP Call.replaces +
        (stage.calls table operations).countP Call.flushesPending +
        (stage.calls table operations).countP Call.firesLive := by
  induction operations generalizing stage with
  | nil => rfl
  | cons operation rest ih =>
      obtain ⟨bringsFirst, bringsRest⟩ := List.forall_mem_cons.1 brings
      obtain ⟨stays, staysRest⟩ := List.ne_and_not_mem_of_not_mem_cons stays
      obtain ⟨unfiredFirst, unfiredRest⟩ := List.forall_mem_cons.1 unfired
      obtain ⟨apart, onceRest⟩ := List.pairwise_cons.1 (List.pairwise_filterMap.1 once)
      obtain ⟨next, completes, became⟩ :=
        exists_completes table operation plain work bringsFirst stays.symm
      have unfiredNext : ∀ later ∈ rest, ∀ number, later.timer? = some number →
          next.Unfired number := by
        intro later member number runs
        apply (unfiredRest later member number runs).of_completes completes
        exact fun runsFirst => apart later member number runsFirst number runs rfl
      have counted := ih (plain.withSession next)
        (work.of_completes completes bringsFirst stays.symm) bringsRest staysRest
        (List.pairwise_filterMap.2 onceRest) unfiredNext
      have published := work.passes_of_completes completes stays.symm unfiredFirst
      simp only [Call.validations] at published
      simp only [play_cons, calls, became, List.countP_cons, counted]
      omega

/-- Edits leave a session at work. -/
theorem isAtWork_play_change (plain : stage.IsPlain) (work : stage.session.IsAtWork)
    (texts : List Text) :
    (stage.play table (texts.map (.change <| .text ·))).IsPlain ∧
      (stage.play table (texts.map (.change <| .text ·))).session.IsAtWork := by
  apply isAtWork_play table plain work
  · intro operation member
    obtain ⟨text, -, rfl⟩ := List.mem_map.1 member
    exact ⟨text, rfl⟩
  · simp

/-- Edits publish nothing. -/
theorem play_changes (plain : stage.IsPlain) (work : stage.session.IsAtWork) (texts : List Text) :
    (stage.play table (texts.map (.change <| .text ·))).session.passes = stage.session.passes ∧
      (stage.play table (texts.map (.change <| .text ·))).session.sent = stage.session.sent := by
  induction texts generalizing stage with
  | nil => exact ⟨rfl, rfl⟩
  | cons text rest ih =>
      obtain ⟨next, completes, became⟩ :=
        exists_completes table (.change (.text text)) plain work ⟨text, rfl⟩
          Operation.noConfusion
      obtain ⟨-, -, passes, sent⟩ := work.change_of_completes completes
      rw [List.map_cons, play_cons, became, ← passes, ← sent]
      exact ih (plain.withSession next)
        (work.of_completes completes ⟨text, rfl⟩ Operation.noConfusion)

/-- While the timer of the current generation waits, the others may run in any order. -/
theorem restsUntil_play (plain : stage.IsPlain) (work : stage.session.IsAtWork) {number : Nat}
    {timer : Timer} (armed : stage.session.timers[number]? = some timer)
    (current : timer.generation = stage.session.generation) {order : List Nat}
    (apart : number ∉ order) :
    stage.session.RestsUntil (stage.play table (order.map .fire)).session := by
  induction order generalizing stage timer with
  | nil => exact .refl _
  | cons other rest ih =>
      obtain ⟨apart, apartRest⟩ := List.ne_and_not_mem_of_not_mem_cons apart
      obtain ⟨next, completes, became⟩ :=
        exists_completes table (.fire other) plain work trivial
          Operation.noConfusion
      have rests := work.restsUntil_of_completes armed current apart.symm completes
      obtain ⟨found, foundNext, same⟩ := rests.generation armed
      have currentNext : found.generation = next.generation := by
        rw [same, current, rests.same]
      rw [List.map_cons, play_cons, became]
      exact rests.trans (ih (plain.withSession next)
        (work.of_completes completes trivial Operation.noConfusion) foundNext currentNext apartRest)

/-- Timers may run at any time and in any order. -/
theorem isAtWork_play_fire (plain : stage.IsPlain) (work : stage.session.IsAtWork)
    (order : List Nat) :
    (stage.play table (order.map .fire)).IsPlain ∧
      (stage.play table (order.map .fire)).session.IsAtWork := by
  apply isAtWork_play table plain work
  · intro operation member
    obtain ⟨number, -, rfl⟩ := List.mem_map.1 member
    trivial
  · simp

/-- When timers run in any order, the pending one among them and once, the content is
published once. -/
theorem play_fire (plain : stage.IsPlain) (work : stage.session.IsAtWork) {text : Text}
    (content : stage.session.content = .text text) {number : Nat}
    (waiting : stage.session.pending = some number) {order : List Nat} (once : order.Nodup)
    (called : number ∈ order) :
    (stage.play table (order.map .fire)).session.content = .text text ∧
      (stage.play table (order.map .fire)).session.passes = stage.session.passes + 1 ∧
      (stage.play table (order.map .fire)).session.diagnostics = table.validate text ∧
      (stage.play table (order.map .fire)).session.sent =
        stage.session.sent ++ [table.validate text] := by
  obtain ⟨before, behind, rfl⟩ := List.append_of_mem called
  obtain ⟨-, onceBehind, apart⟩ := List.nodup_append.1 once
  have apartBefore : number ∉ before := fun member =>
    apart number member number List.mem_cons_self rfl
  have apartBehind : number ∉ behind := (List.nodup_cons.1 onceBehind).1
  rw [List.map_append, List.map_cons, play_append, play_cons]
  -- The timers in front of the pending one leave the session as it is,
  obtain ⟨timer, armed, -, current⟩ := work.slot.held number waiting
  have rests := restsUntil_play table plain work armed current apartBefore
  obtain ⟨plainReached, workReached⟩ := isAtWork_play_fire table plain work before
  generalize stage.play table (before.map .fire) = reached at *
  have contentReached : reached.session.content = .text text := by rw [rests.same, content]
  have waitingReached : reached.session.pending = some number := by rw [rests.same, waiting]
  -- the pending one publishes the content,
  obtain ⟨next, completes, became⟩ :=
    exists_completes table (.fire number) plainReached workReached trivial
      Operation.noConfusion
  have published := workReached.fire_of_completes contentReached waitingReached completes
  -- and those behind it find their generations over.
  obtain ⟨found, foundReached, -, currentReached⟩ :=
    workReached.slot.held number waitingReached
  have armedNext : next.timers[number]? = some found.fire := by
    rw [published]
    simp [Session.published, Session.send, foundReached]
  have currentNext : found.fire.generation = next.generation := by
    rw [published]
    exact currentReached
  have restsBehind := restsUntil_play table (plainReached.withSession next)
    (workReached.of_completes completes trivial Operation.noConfusion) armedNext currentNext
    apartBehind
  rw [became, restsBehind.same, published]
  refine ⟨contentReached, ?_, rfl, ?_⟩
  · show reached.session.passes + 1 = _
    rw [rests.same]
  · show reached.session.sent ++ _ = _
    rw [rests.same]

/-- The text on which a session opens is validated at once. -/
theorem enter_text (scheduler : Scheduler) (text : Text) :
    enter table scheduler (.text text) = .ok {
      session := (Session.new (.text text)).session.published table text
      scheduler } := by
  have ran : run table { session := (Session.new (.text text)).session, scheduler }
      [.task (.validate 0)] = _ :=
    run_validate table ⟨rfl, rfl⟩ rfl rfl
  have first : ((Session.new (.text text)).task.map Item.task).toList =
      [.task (.validate 0)] := rfl
  simp only [enter, first, ran]
  cases scheduler <;> rfl

/-- Timers that a scheduler runs on its own are carried out like any others. -/
theorem exists_settle_eq_play (stage : Stage) :
    ∃ order : List Nat, stage.settle table = stage.play table (order.map .fire) := by
  have within (bound : Nat) : ∀ stage : Stage, ∃ order : List Nat,
      settleWithin table bound stage = stage.play table (order.map .fire) := by
    induction bound with
    | zero => exact fun stage => ⟨[], rfl⟩
    | succ bound ih =>
        intro stage
        rw [settleWithin]
        split
        · exact ⟨[], rfl⟩
        · rename_i number _
          obtain ⟨order, same⟩ := ih (stage.run table [.operation (.fire number)]).1
          exact ⟨number :: order, same⟩
  rw [settle]
  split
  · exact ⟨[], rfl⟩
  · exact within _ stage

/-- A step of a script that carries out an operation carries out that operation and then
the timers that the scheduler does not hand out. -/
theorem exists_step_operate_eq_play (stage : Stage) {operation : Operation}
    (permitted : stage.withholds operation = false) :
    ∃ order : List Nat, (stage.step table (.operate operation)).1 =
      stage.play table (operation :: order.map .fire) := by
  obtain ⟨order, settled⟩ :=
    exists_settle_eq_play table (stage.run table [.operation operation]).1
  refine ⟨order, ?_⟩
  have carriedOut : stage.run table [.script (.operate operation)] =
      stage.run table [.operation operation] := by
    rw [run, permitted]
    rfl
  rw [step, carriedOut]
  show _ = (stage.run table [.operation operation]).1.play table (order.map .fire)
  rw [← settled]
  split <;> simp_all

/-- A session is opened on a text, and operations are carried out one after the other:
edits, validations on demand, other documents, and timers in any order, whether or not
they were cancelled, but none of them twice. The validations published are one for the
opening, one for each other document, one for each validation on demand that finds one
pending, and one for each timer that was live when it ran. When edits follow and then
every timer runs that has been armed and has not run yet, in any order and whether or
not it was cancelled, one validation more is published, and it is that of the last
edit. -/
theorem session_coalescing (scheduler : Scheduler) (text : Text) {operations : List Operation}
    (brings : ∀ operation ∈ operations, operation.BringsText) (stays : .close ∉ operations)
    (once : (operations.filterMap Operation.timer?).Nodup) :
    ∃ stage, enter table scheduler (.text text) = .ok stage ∧
      (stage.play table operations).session.passes =
        1 + (stage.calls table operations).countP Call.replaces +
          (stage.calls table operations).countP Call.flushesPending +
          (stage.calls table operations).countP Call.firesLive ∧
      ∀ (texts : List Text) (last : Text) (order : List Nat) (reached edited called : Stage),
        reached = stage.play table operations →
        edited = reached.play table ((texts ++ [last]).map (.change <| .text ·)) →
        called = edited.play table (order.map .fire) →
        order.Nodup →
        (∀ (number : Nat) (timer : Timer), edited.session.timers[number]? = some timer →
          timer.fired = false → number ∈ order) →
        called.session.content = .text last ∧
          called.session.passes = reached.session.passes + 1 ∧
          called.session.diagnostics = table.validate last ∧
          called.session.sent = reached.session.sent ++ [table.validate last] := by
  have work : ((Session.new (.text text)).session.published table text).IsAtWork :=
    ⟨rfl, ⟨text, rfl⟩, { Session.SingleSlot.opening (.text text) with }⟩
  have plain : IsPlain {
      session := (Session.new (.text text)).session.published table text
      scheduler } := ⟨rfl, rfl⟩
  refine ⟨_, enter_text table scheduler text, ?_, ?_⟩
  · apply passes_play table plain work brings stays once
    intro operation _ number _ timer found
    contradiction
  · rintro texts last order reached edited called rfl rfl rfl onceCalled everyTimer
    obtain ⟨plain, work⟩ := isAtWork_play table plain work brings stays
    generalize play table _ operations = reached at *
    obtain ⟨samePasses, sameSent⟩ := play_changes table plain work texts
    obtain ⟨plain, work⟩ := isAtWork_play_change table plain work texts
    rw [List.map_append, play_append] at everyTimer ⊢
    rw [← samePasses, ← sameSent]
    generalize reached.play table (texts.map (.change <| .text ·)) = typed at *
    obtain ⟨next, completes, became⟩ := exists_completes table (.change (.text last)) plain work
      ⟨last, rfl⟩ Operation.noConfusion
    obtain ⟨content, waiting, passes, sent⟩ := work.change_of_completes completes
    have work := work.of_completes completes ⟨last, rfl⟩ Operation.noConfusion
    rw [List.map_singleton, became] at everyTimer ⊢
    obtain ⟨number, inSlot⟩ := Option.isSome_iff_exists.1 waiting
    obtain ⟨timer, armed, live, -⟩ := work.slot.held number inSlot
    have unfired : timer.fired = false := by
      simp only [Timer.isLive, Bool.and_eq_true, Bool.not_eq_true'] at live
      exact live.2
    rw [← passes, ← sent]
    exact play_fire table (plain.withSession next) work content inSlot onceCalled
      (everyTimer number timer armed unfired)

/-- The timer of an edit runs, another edit is validated on demand, its cancelled timer
runs all the same, and another document is loaded: with the opening, four validations.
Two edits follow, and their timers run, the newer one first: a fifth. -/
theorem session_coalescing_timers :
    ∃ stage reached called, enter Table.default .manual (.text "ukuba x") = .ok stage ∧
      reached = stage.play Table.default [.change (.text "ukuba"), .fire 0,
        .change (.text "enye"), .flush, .fire 1, .replace (.text "x")] ∧
      called = (reached.play Table.default [.change (.text "y"), .change (.text "nge x")]).play
        Table.default [.fire 3, .fire 2] ∧
      reached.session.passes = 4 ∧ called.session.passes = 5 ∧
      called.session.sent = reached.session.sent ++ [Table.default.validate "nge x"] := by
  obtain ⟨stage, entered, -, burst⟩ :=
    @session_coalescing Table.default .manual "ukuba x"
      [.change (.text "ukuba"), .fire 0, .change (.text "enye"), .flush, .fire 1,
        .replace (.text "x")]
      (by simp [Operation.BringsText]) (by simp) (by decide)
  obtain ⟨reached, edited, reaches, edits, passes, fired⟩ : ∃ reached edited,
      stage.play Table.default [.change (.text "ukuba"), .fire 0, .change (.text "enye"),
        .flush, .fire 1, .replace (.text "x")] = reached ∧
      reached.play Table.default [.change (.text "y"), .change (.text "nge x")] = edited ∧
      reached.session.passes = 4 ∧
      edited.session.timers.map Timer.fired = [true, true, false, false] := by
    cases (enter_text Table.default .manual "ukuba x").symm.trans entered
    exact ⟨_, _,
      Eq.trans (play_cons_of_quiet _ ⟨rfl, rfl⟩ rfl rfl _) <|
      Eq.trans (play_cons_of_validated _ ⟨rfl, rfl⟩ rfl rfl rfl rfl _) <|
      Eq.trans (play_cons_of_quiet _ ⟨rfl, rfl⟩ rfl rfl _) <|
      Eq.trans (play_cons_of_validated _ ⟨rfl, rfl⟩ rfl rfl rfl rfl _) <|
      Eq.trans (play_cons_of_quiet _ ⟨rfl, rfl⟩ rfl rfl _) <|
      play_cons_of_validated _ ⟨rfl, rfl⟩ rfl rfl rfl rfl [],
      Eq.trans (play_cons_of_quiet _ ⟨rfl, rfl⟩ rfl rfl _) <|
      play_cons_of_quiet _ ⟨rfl, rfl⟩ rfl rfl [],
      rfl, rfl⟩
  have everyTimer : ∀ (number : Nat) (timer : Timer),
      edited.session.timers[number]? = some timer → timer.fired = false → number ∈ [3, 2] := by
    intro number timer found unfired
    have record : [true, true, false, false][number]? = some false := by
      rw [← fired, List.getElem?_map, found, Option.map_some, unfired]
    rcases number with _ | _ | _ | _ | _ <;> simp_all
  obtain ⟨-, counted, -, sent⟩ := burst ["y"] "nge x" [3, 2] reached edited _ reaches.symm
    edits.symm rfl (by decide) everyTimer
  refine ⟨stage, reached, _, entered, reaches.symm, by rw [edits]; rfl, passes, ?_, sent⟩
  rw [counted, passes]

end Stage

end KeywordBridge
