import KeywordBridge.Session.Basic

/-!
# Runs of a session

A run is what happens to one session while operations interrupt each other. An
operation may begin at any time, in particular while a validation that was
started earlier still computes its result, or while the host handles the markers
it has been sent. What such an operation leaves to be done is in flight until it
has been done. Which of the tasks in flight goes on is left open, so that runs in
which the innermost operation goes on first are covered, and others as well.

An operation that is refused changes nothing. Its failure may end the operations
around it, which then never do what they had left to do.
-/

namespace KeywordBridge

namespace Session

/-! ## Cancelling touches the timers alone -/

variable (session : Session)

@[simp]
theorem cancelPending_content : session.cancelPending.content = session.content := by
  unfold cancelPending
  split <;> rfl

@[simp]
theorem cancelPending_pending : session.cancelPending.pending = none := by
  unfold cancelPending
  split
  · assumption
  · rfl

@[simp]
theorem cancelPending_generation : session.cancelPending.generation = session.generation := by
  unfold cancelPending
  split <;> rfl

@[simp]
theorem cancelPending_closed : session.cancelPending.closed = session.closed := by
  unfold cancelPending
  split <;> rfl

@[simp]
theorem cancelPending_diagnostics : session.cancelPending.diagnostics = session.diagnostics := by
  unfold cancelPending
  split <;> rfl

@[simp]
theorem cancelPending_passes : session.cancelPending.passes = session.passes := by
  unfold cancelPending
  split <;> rfl

@[simp]
theorem cancelPending_sent : session.cancelPending.sent = session.sent := by
  unfold cancelPending
  split <;> rfl

theorem isCurrent_iff (generation : Nat) :
    session.isCurrent generation = true ↔
      generation = session.generation ∧ session.closed = false := by
  simp [isCurrent]

end Session

/-! ## What a move does -/

/-- The first moves that the operations of a session can make. -/
inductive Begins (session : Session) : Operation → Move → Prop
  | change (content : Content) (opened : session.closed = false) :
      Begins session (.change content)
        { session := { session with content }.cancelPending.advance.arm }
  | flushNothing (opened : session.closed = false) (idle : session.pending = none) :
      Begins session .flush { session }
  | flush (opened : session.closed = false) (timer : Nat)
      (waiting : session.pending = some timer) :
      Begins session .flush {
        session := session.cancelPending.advance
        task := some (.validate session.cancelPending.advance.generation) }
  | replace (content : Content) (opened : session.closed = false) :
      Begins session (.replace content) {
        session := { session.cancelPending.advance with content }.send []
        task := some (.validate session.cancelPending.advance.generation)
        notice := .marking }
  | closeAgain (closed : session.closed = true) : Begins session .close { session }
  | close (opened : session.closed = false) :
      Begins session .close {
        session := { session.cancelPending.advance with closed := true }.send []
        notice := .marking }
  | fire (number : Nat) (timer : Timer) (armed : session.timers[number]? = some timer)
      (current : session.isCurrent timer.generation = true) :
      Begins session (.fire number) {
        session :=
          { session with
            timers := session.timers.modify number Timer.fire
            pending := none }
        task := some (.validate timer.generation) }
  | fireLate (number : Nat) (timer : Timer) (armed : session.timers[number]? = some timer)
      (late : session.isCurrent timer.generation = false) :
      Begins session (.fire number)
        { session := { session with timers := session.timers.modify number Timer.fire } }

/-- There are no other first moves. -/
theorem begins_of_start {session : Session} {operation : Operation} {move : Move}
    (done : session.start operation = .ok move) : Begins session operation move := by
  cases operation with
  | change content =>
      simp only [Session.start] at done
      split at done
      · simp at done
      · cases done
        exact .change content (Bool.eq_false_iff.2 ‹_›)
  | flush =>
      simp only [Session.start] at done
      split at done
      · simp at done
      · split at done
        · cases done
          exact .flushNothing (Bool.eq_false_iff.2 ‹_›) ‹_›
        · cases done
          exact .flush (Bool.eq_false_iff.2 ‹_›) _ ‹_›
  | replace content =>
      simp only [Session.start] at done
      split at done
      · simp at done
      · cases done
        exact .replace content (Bool.eq_false_iff.2 ‹_›)
  | close =>
      simp only [Session.start] at done
      split at done
      · cases done
        exact .closeAgain ‹_›
      · cases done
        exact .close (Bool.eq_false_iff.2 ‹_›)
  | fire number =>
      simp only [Session.start] at done
      split at done
      · simp at done
      · rename_i timer armed
        split at done
        · cases done
          exact .fire number timer armed ‹_›
        · cases done
          exact .fireLate number timer armed (Bool.eq_false_iff.2 ‹_›)

/-- Only a closed session refuses an operation as closed. -/
theorem closed_of_refused {session : Session} {operation : Operation}
    (refused : session.start operation = .error .closed) : session.closed = true := by
  cases closed : session.closed with
  | true => rfl
  | false =>
      cases operation with
      | change content => simp [Session.start, closed] at refused
      | replace content => simp [Session.start, closed] at refused
      | close => simp [Session.start, closed] at refused
      | flush =>
          simp only [Session.start, closed] at refused
          split at refused
          · contradiction
          · split at refused <;> simp at refused
      | fire number =>
          simp only [Session.start] at refused
          split at refused
          · simp at refused
          · split at refused <;> simp at refused

/-- The moves by which a task goes on. -/
inductive Continues (table : Table) (session : Session) : Task → Move → Prop
  | validate (generation : Nat) :
      Continues table session (.validate generation) {
        session
        task := some (.publish generation session.content)
        notice := .validating }
  | publish (generation : Nat) (text : Text)
      (current : session.isCurrent generation = true) :
      Continues table session (.publish generation (.text text)) {
        session := { session with passes := session.passes + 1 }.send (table.validate text)
        notice := .marking }
  | drop (generation : Nat) (text : Text) (late : session.isCurrent generation = false) :
      Continues table session (.publish generation (.text text)) { session }

theorem perform_publish_text (table : Table) (session : Session) (generation : Nat)
    (text : Text) :
    session.perform table (.publish generation (.text text)) =
      if session.isCurrent generation then
        .ok {
          session := { session with passes := session.passes + 1 }.send (table.validate text)
          notice := .marking }
      else .ok { session } :=
  rfl

theorem perform_publish_other (table : Table) (session : Session) (generation : Nat)
    (value : Json) :
    session.perform table (.publish generation (.other value)) =
      .error (.content (.neitherTextNorNull value.kindName)) :=
  rfl

/-- There are no other moves by which a task goes on. -/
theorem continues_of_perform {table : Table} {session : Session} {task : Task} {move : Move}
    (done : session.perform table task = .ok move) : Continues table session task move := by
  cases task with
  | validate generation =>
      cases done
      exact .validate generation
  | publish generation content =>
      cases content with
      | other value =>
          rw [perform_publish_other] at done
          cases done
      | text text =>
          rw [perform_publish_text] at done
          split at done
          · cases done
            exact .publish generation text ‹_›
          · cases done
            exact .drop generation text (Bool.eq_false_iff.2 ‹_›)

/-- A task validates a text, not some other content. -/
def Task.ValidatesText : Task → Prop
  | validate _ => True
  | publish _ content => ∃ text, content = .text text

/-- A task that validates a text can go on. -/
theorem session_perform_isOk {table : Table} {session : Session} {task : Task}
    (validates : task.ValidatesText) : ∃ move, session.perform table task = .ok move := by
  cases task with
  | validate generation => exact ⟨_, rfl⟩
  | publish generation content =>
      obtain ⟨text, rfl⟩ : ∃ text, content = .text text := validates
      rw [perform_publish_text]
      split <;> exact ⟨_, rfl⟩

/-! ## Runs -/

/-- The content that an operation brings, if it brings one, is a text. -/
def Operation.BringsText : Operation → Prop
  | .change content | .replace content => ∃ text, content = .text text
  | _ => True

/-- A session with the tasks that are in flight. -/
structure Run where
  session : Session
  inFlight : List Task

namespace Run

/-- A session is opened on a text, and its first validation is in flight. -/
def opening (text : Text) : Run :=
  ⟨(Session.new (.text text)).session, (Session.new (.text text)).task.toList⟩

/-- One step of a run. -/
inductive Step (table : Table) : Run → Run → Prop
  /-- An operation begins, whatever is in flight. -/
  | start {session : Session} {tasks : List Task} {move : Move} (operation : Operation)
      (brings : operation.BringsText) (done : session.start operation = .ok move) :
      Step table ⟨session, tasks⟩ ⟨move.session, move.task.toList ++ tasks⟩
  /-- An operation is refused by a closed session, and operations that it has
  interrupted may fail with it. -/
  | refuse {session : Session} {tasks kept : List Task} {operation : Operation}
      (refused : session.start operation = .error .closed) (remaining : kept.Sublist tasks) :
      Step table ⟨session, tasks⟩ ⟨session, kept⟩
  /-- A task in flight goes on. -/
  | proceed {session : Session} {earlier later : List Task} {task : Task} {move : Move}
      (done : session.perform table task = .ok move) :
      Step table ⟨session, earlier ++ task :: later⟩
        ⟨move.session, earlier ++ move.task.toList ++ later⟩

/-- The task of the innermost operation may go on first. -/
theorem Step.innermost {table : Table} {session : Session} {tasks : List Task} {task : Task}
    {move : Move} (done : session.perform table task = .ok move) :
    Step table ⟨session, task :: tasks⟩ ⟨move.session, move.task.toList ++ tasks⟩ :=
  @Step.proceed table session [] tasks task move done

/-- The states of a session and of the tasks in flight that some run arrives at. -/
inductive Reachable (table : Table) : Run → Prop
  | opening (text : Text) : Reachable table (opening text)
  | step {run later : Run} (reached : Reachable table run) (next : Step table run later) :
      Reachable table later

end Run

end KeywordBridge
