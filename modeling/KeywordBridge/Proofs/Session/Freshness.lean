import KeywordBridge.Keyword.Default
import KeywordBridge.Proofs.Session.Run

/-!
# Diagnostics are never older than the content

Every operation that changes the content or asks for a new validation advances
the generation of the session. So a validation in flight that belongs to the
current generation has read the current content, and its result may be
published; any other is dropped. As long as no validation is pending or in
flight, the diagnostics are therefore those of the content, and they are always
the markers that the host was sent last.
-/

namespace KeywordBridge

/-- The generation for which a task validates. -/
def Task.generation : Task → Nat
  | validate generation => generation
  | publish generation _ => generation

/-- A task that waits for the result of a validation has read this content. -/
def Task.HasRead (content : Content) : Task → Prop
  | validate _ => True
  | publish _ read => read = content

namespace Run

/-- How the tasks in flight and the diagnostics of a session lie to its
content. -/
structure Fresh (table : Table) (run : Run) : Prop where
  isText : ∃ text, run.session.content = .text text
  /-- No task belongs to a generation that is still to come. -/
  known : ∀ task ∈ run.inFlight, task.generation ≤ run.session.generation
  validatesText : ∀ task ∈ run.inFlight, task.ValidatesText
  /-- A task of the current generation has read the current content. -/
  hasRead : ∀ task ∈ run.inFlight, task.generation = run.session.generation →
    task.HasRead run.session.content
  lastSent : run.session.diagnostics = run.session.sent.getLast?.getD []
  /-- Where nothing is pending, the diagnostics are those of the content or a task
  of the current generation will see to it. -/
  settled : run.session.closed = false → run.session.pending = none →
    (∃ task ∈ run.inFlight, task.generation = run.session.generation) ∨
      ∃ text, run.session.content = .text text ∧
        run.session.diagnostics = table.validate text

theorem fresh_opening (table : Table) (text : Text) : Fresh table (opening text) where
  isText := ⟨text, rfl⟩
  known := by simp [opening, Session.new, Task.generation]
  validatesText := by simp [opening, Session.new, Task.ValidatesText]
  hasRead := by simp [opening, Session.new, Task.HasRead]
  lastSent := rfl
  settled := fun _ _ => .inl ⟨.validate 0, List.mem_cons_self, rfl⟩

/-- An operation that advances the generation makes every task in flight obsolete,
so it has to leave a validation of its own unless one is pending or the session is
closed. -/
theorem Fresh.advance {table : Table} {session next : Session} {tasks started : List Task}
    (fresh : Fresh table ⟨session, tasks⟩)
    (advanced : next.generation = session.generation + 1)
    (isText : ∃ text, next.content = .text text)
    (lastSent : next.diagnostics = next.sent.getLast?.getD [])
    (own : ∀ task ∈ started, task = .validate next.generation)
    (settled : next.closed = false → next.pending = none → started ≠ []) :
    Fresh table ⟨next, started ++ tasks⟩ := by
  have older : ∀ task ∈ tasks, task.generation < next.generation := by
    intro task member
    rw [advanced]
    exact Nat.lt_succ_of_le (fresh.known task member)
  refine { isText, lastSent, known := ?_, validatesText := ?_, hasRead := ?_, settled := ?_ }
  · intro task member
    rcases List.mem_append.1 member with new | old
    · rw [own task new]
      exact Nat.le_refl _
    · exact Nat.le_of_lt (older task old)
  · intro task member
    rcases List.mem_append.1 member with new | old
    · rw [own task new]
      trivial
    · exact fresh.validatesText task old
  · intro task member current
    rcases List.mem_append.1 member with new | old
    · rw [own task new]
      trivial
    · exact absurd current (Nat.ne_of_lt (older task old))
  · intro opened idle
    obtain ⟨task, new⟩ := List.exists_mem_of_ne_nil started (settled opened idle)
    refine .inl ⟨task, List.mem_append_left _ new, ?_⟩
    rw [own task new]
    rfl

theorem fresh_start {table : Table} {session : Session} {tasks : List Task}
    {operation : Operation} {move : Move} (fresh : Fresh table ⟨session, tasks⟩)
    (brings : operation.BringsText) (done : session.start operation = .ok move) :
    Fresh table ⟨move.session, move.task.toList ++ tasks⟩ := by
  have isText := fresh.isText
  have lastSent := fresh.lastSent
  cases begins_of_start done with
  | change content opened =>
      obtain ⟨text, rfl⟩ : ∃ text, content = .text text := brings
      apply fresh.advance
      · simp [Session.arm, Session.advance]
      · simp [Session.arm, Session.advance]
      · simpa [Session.arm, Session.advance] using lastSent
      · simp
      · simp [Session.arm]
  | flush opened timer waiting =>
      apply fresh.advance
      · simp [Session.advance]
      · simpa [Session.advance] using isText
      · simpa [Session.advance] using lastSent
      · simp [Session.advance]
      · simp
  | replace content opened =>
      obtain ⟨text, rfl⟩ : ∃ text, content = .text text := brings
      apply fresh.advance
      · simp [Session.send, Session.advance]
      · simp [Session.send]
      · simp [Session.send]
      · simp [Session.send, Session.advance]
      · simp
  | close opened =>
      apply fresh.advance
      · simp [Session.send, Session.advance]
      · simpa [Session.send, Session.advance] using isText
      · simp [Session.send]
      · simp
      · simp [Session.send]
  | fire number timer armed current =>
      have ofCurrent := ((session.isCurrent_iff _).1 current).1
      refine { isText, lastSent, known := ?_, validatesText := ?_, hasRead := ?_, settled := ?_ }
      · intro task member
        rcases List.mem_cons.1 member with rfl | old
        · exact Nat.le_of_eq ofCurrent
        · exact fresh.known task old
      · intro task member
        rcases List.mem_cons.1 member with rfl | old
        · trivial
        · exact fresh.validatesText task old
      · intro task member ofGeneration
        rcases List.mem_cons.1 member with rfl | old
        · trivial
        · exact fresh.hasRead task old ofGeneration
      · intro _ _
        exact .inl ⟨_, List.mem_cons_self, ofCurrent⟩
  | flushNothing | closeAgain | fireLate =>
      exact { fresh with }

/-- A failure outside an open session ends tasks that would be dropped anyway. -/
theorem fresh_refuse {table : Table} {session : Session} {tasks kept : List Task}
    {operation : Operation} (fresh : Fresh table ⟨session, tasks⟩)
    (refused : session.start operation = .error .closed) (remaining : kept.Sublist tasks) :
    Fresh table ⟨session, kept⟩ where
  isText := fresh.isText
  known := fun task member => fresh.known task (remaining.subset member)
  validatesText := fun task member => fresh.validatesText task (remaining.subset member)
  hasRead := fun task member => fresh.hasRead task (remaining.subset member)
  lastSent := fresh.lastSent
  settled := fun opened => absurd opened (by simp [closed_of_refused refused])

theorem fresh_proceed {table : Table} {session : Session} {earlier later : List Task}
    {task : Task} {move : Move} (fresh : Fresh table ⟨session, earlier ++ task :: later⟩)
    (done : session.perform table task = .ok move) :
    Fresh table ⟨move.session, earlier ++ move.task.toList ++ later⟩ := by
  obtain ⟨isText, known, validatesText, hasRead, lastSent, settled⟩ := fresh
  have around : ∀ {first other : Task},
      other ∈ earlier ++ first :: later ↔ other = first ∨ other ∈ earlier ++ later :=
    fun {first other} => (List.perm_middle (a := first)).mem_iff.trans List.mem_cons
  have others : ∀ other ∈ earlier ++ later, other ∈ earlier ++ task :: later :=
    fun other member => around.2 (.inr member)
  cases continues_of_perform done with
  | validate generation =>
      rw [Option.toList_some, List.append_assoc, List.singleton_append]
      refine { isText, lastSent, known := ?_, validatesText := ?_, hasRead := ?_, settled := ?_ }
      · intro other member
        rcases around.1 member with rfl | old
        · exact known (.validate generation) (around.2 (.inl rfl))
        · exact known other (others other old)
      · intro other member
        rcases around.1 member with rfl | old
        · exact isText
        · exact validatesText other (others other old)
      · intro other member current
        rcases around.1 member with rfl | old
        · rfl
        · exact hasRead other (others other old) current
      · intro opened idle
        rcases settled opened idle with ⟨other, member, current⟩ | validated
        · rcases around.1 member with rfl | old
          · exact .inl ⟨_, around.2 (.inl rfl), current⟩
          · exact .inl ⟨other, around.2 (.inr old), current⟩
        · exact .inr validated
  | publish generation text current =>
      obtain ⟨ofCurrent, opened⟩ := (session.isCurrent_iff generation).1 current
      have same : .text text = session.content := hasRead _ (around.2 (.inl rfl)) ofCurrent
      rw [Option.toList_none, List.append_nil]
      exact {
        isText := ⟨text, same.symm⟩
        known := fun other member => known other (others other member)
        validatesText := fun other member => validatesText other (others other member)
        hasRead := fun other member => hasRead other (others other member)
        lastSent := by simp [Session.send]
        settled := fun _ _ => .inr ⟨text, same.symm, rfl⟩ }
  | drop generation text late =>
      rw [Option.toList_none, List.append_nil]
      refine {
        isText, lastSent
        known := fun other member => known other (others other member)
        validatesText := fun other member => validatesText other (others other member)
        hasRead := fun other member => hasRead other (others other member)
        settled := ?_ }
      intro opened idle
      rcases settled opened idle with ⟨other, member, ofCurrent⟩ | validated
      · rcases around.1 member with rfl | old
        · have current := (session.isCurrent_iff generation).2 ⟨ofCurrent, opened⟩
          rw [late] at current
          exact Bool.noConfusion current
        · exact .inl ⟨other, old, ofCurrent⟩
      · exact .inr validated

theorem fresh_of_reachable {table : Table} {run : Run} (reachable : Reachable table run) :
    Fresh table run := by
  induction reachable with
  | opening text => exact fresh_opening table text
  | step _ next fresh =>
      cases next with
      | start _ brings done => exact fresh_start fresh brings done
      | refuse refused remaining => exact fresh_refuse fresh refused remaining
      | proceed done => exact fresh_proceed fresh done

/-- In every run of a session over texts, whatever operations interrupt each other:
every task in flight can go on, and if it publishes diagnostics, it stores and sends
those of the text that is the content at that moment; the diagnostics are the set of
markers that was sent last; and where nothing is in flight or pending, an open
session has the diagnostics of its content. A validation is in flight from the
operation that asks for it until its result is published or dropped. -/
theorem session_freshness {table : Table} {run : Run} (reachable : Reachable table run) :
    (∀ task ∈ run.inFlight, ∃ move, run.session.perform table task = .ok move ∧
        move.session.content = run.session.content ∧
        (move.notice = .marking → ∃ text, run.session.content = .text text ∧
          move.session.diagnostics = table.validate text ∧
          move.session.sent = run.session.sent ++ [table.validate text])) ∧
      run.session.diagnostics = run.session.sent.getLast?.getD [] ∧
      (run.inFlight = [] → run.session.closed = false → run.session.pending = none →
        ∃ text, run.session.content = .text text ∧
          run.session.diagnostics = table.validate text) := by
  have fresh := fresh_of_reachable reachable
  refine ⟨?_, fresh.lastSent, ?_⟩
  · intro task member
    obtain ⟨move, done⟩ := session_perform_isOk (fresh.validatesText task member)
    refine ⟨move, done, ?_⟩
    cases continues_of_perform done with
    | validate generation => exact ⟨rfl, fun marking => by simp at marking⟩
    | drop generation text late => exact ⟨rfl, fun marking => by simp at marking⟩
    | publish generation text current =>
        have ofCurrent := ((run.session.isCurrent_iff generation).1 current).1
        have same : .text text = run.session.content := fresh.hasRead _ member ofCurrent
        exact ⟨rfl, fun _ => ⟨text, same.symm, rfl, rfl⟩⟩
  · intro quiet opened idle
    rcases fresh.settled opened idle with ⟨task, member, -⟩ | validated
    · rw [quiet] at member
      exact absurd member List.not_mem_nil
    · exact validated

/-- While the first validation is under way, another document is loaded, and while
the host is sent its empty set of markers, that document is edited. Both
validations are overtaken, and the one that is published is that of the edit. -/
theorem session_freshness_overtaken :
    ∃ run, Reachable Table.default run ∧ run.inFlight = [] ∧ run.session.closed = false ∧
      run.session.pending = none ∧ run.session.content = .text "enye" ∧
      run.session.sent = [[], [⟨1, 5, 6, .bareWordWithoutColon "enye"⟩]] ∧
      run.session.diagnostics = run.session.sent.getLast?.getD [] ∧
      ∃ text, run.session.content = .text text ∧
        run.session.diagnostics = Table.default.validate text := by
  have opened : Reachable Table.default (opening "ukuba x") := .opening _
  have reading := opened.step (.innermost rfl)
  have loaded := reading.step (.start (.replace (.text "x")) ⟨_, rfl⟩ rfl)
  have edited := loaded.step (.start (.change (.text "enye")) ⟨_, rfl⟩ rfl)
  have overtaken := ((edited.step (.innermost rfl)).step (.innermost rfl)).step (.innermost rfl)
  have fired := overtaken.step (.start (.fire 0) trivial rfl)
  have published := (fired.step (.innermost rfl)).step (.innermost rfl)
  have diagnosed : Table.default.validate "enye" =
      [⟨1, 5, 6, .bareWordWithoutColon "enye"⟩] := by
    decide +kernel
  have fresh := session_freshness published
  refine ⟨_, published, rfl, rfl, rfl, rfl, ?_, fresh.2.1, fresh.2.2 rfl rfl rfl⟩
  rw [← diagnosed]
  rfl

end Run

end KeywordBridge
