import SnowflakeSql.Proofs.Session.Starts
import SnowflakeSql.Session.Rehearsal

/-!
# One statement at a time

`OneStatement B s` is the law of the statement slots in a state between polls.  A slot that is
not idle has one holder and shows what that holder does; a session is asked to start a statement
exactly when a task reserves its idle slot; a task that finds the slot taken is turned away, and
one with nothing to run finishes, and neither touches a connection or the driver; and the holder
leaves the slot idle when it is finished or given up.  `oneStatement_of_reachable` says that the
law holds in every state that any schedule and any driver lead to.
-/

namespace SnowflakeSql

/-- The task holds the slot of the connection. -/
def Task.Holds (task : Task) (i : Nat) : Prop := ∃ slot, task.held? = some (i, slot)

/-- What a task gives that is still to start a statement without text. -/
def Task.blankResult? : Task → Option (Except ClientError Reply)
  | .execute _ statement finish none =>
    if statement.isEmpty then some (.ok (finish none)) else none
  | .stream _ statement _ .fresh => if statement.isEmpty then some (.error .emptyQuery) else none
  | _ => none

namespace System

variable {σ : Type} {B : Backend σ}

/-- No connection has changed and the driver has not been called. -/
structure Untouched (s s' : System σ) : Prop where
  connections : s'.connections = s.connections
  backend : s'.backend = s.backend
  events : s'.events = s.events

/-- The law of the statement slots. -/
structure OneStatement (B : Backend σ) (s : System σ) : Prop where
  unique : ∀ m n i, (s.tasks m).Holds i → (s.tasks n).Holds i → m = n
  idle_iff : ∀ i, s.slotOf i = .idle ↔ ∀ n, ¬ (s.tasks n).Holds i
  buffered : ∀ n i statement finish running,
    s.tasks n = .execute i statement finish (some running) →
      s.slotOf i = .running running ∧ ⟨i, .execute running (.buffered statement)⟩ ∈ s.events
  streaming : ∀ n i statement channel cursor held,
    s.tasks n = .stream i statement channel (.flowing cursor held) → s.slotOf i = .starting
  starts : ∀ a, Asks s (act B s a) (startsOfAct s a)
  reserves : ∀ n i, (s.tasks n).wanting? = some i → s.slotOf i = .idle →
    pollTask B (s.tasks n) s = pollReserved B (s.tasks n) (s.reserved i)
  refused : ∀ n i, (s.tasks n).wanting? = some i → s.slotOf i ≠ .idle →
    (s.poll B n).1 = some (.error (.statementInProgress (busyName (s.slotOf i)))) ∧
      Untouched s (s.poll B n).2
  blank : ∀ n result, (s.tasks n).blankResult? = some result →
    (s.poll B n).1 = some result ∧ Untouched s (s.poll B n).2
  finished : ∀ n i, (s.tasks n).Holds i ∨ (s.tasks n).wanting? = some i ∧ s.slotOf i = .idle →
    if (s.poll B n).1.isSome then (s.poll B n).2.slotOf i = .idle
    else ((s.poll B n).2.tasks n).Holds i
  dropped : ∀ n i, (s.tasks n).Holds i → (s.drop B n).slotOf i = .idle

/-! ## A running statement is the task's own -/

/-- The session was asked to run what a task waits for. -/
def Started (s : System σ) : Prop :=
  ∀ n i statement finish running, s.tasks n = .execute i statement finish (some running) →
    ⟨i, .execute running (.buffered statement)⟩ ∈ s.events

theorem Asks.mem {s s' : System σ} {starts : List Nat} (h : Asks s s' starts) {event : Event}
    (hmem : event ∈ s.events) : event ∈ s'.events := by
  obtain ⟨calls, hcalls, -⟩ := h
  rw [hcalls]
  exact List.mem_append_left calls hmem

theorem mem_events_startStatement (i : Nat) (statement : Statement) (s : System σ) :
    ⟨i, .execute (startStatement B i statement s).1 (.buffered statement)⟩ ∈
      (startStatement B i statement s).2.events := by
  unfold startStatement
  dsimp only
  split_ifs
  · exact List.mem_append_left _ (List.mem_append_right _ (List.mem_singleton.mpr rfl))
  · exact List.mem_append_right _ (List.mem_singleton.mpr rfl)

theorem rest_awaitRows {i j : Nat} {statement statement' : Statement}
    {finish finish' : Option Response → Reply} {running running' : Running} {s : System σ}
    (h : (awaitRows B i statement finish running s).1.rest =
      .execute j statement' finish' (some running')) :
    Task.execute i statement finish (some running) =
      .execute j statement' finish' (some running') := by
  unfold awaitRows at h
  split at h
  · exact h
  · cases h
  · cases h

/-- A stream that goes on is no buffered statement. -/
theorem rest_pollStream {i j : Nat} {statement statement' : Statement} {channel : Nat}
    {stage : StreamStage} {finish : Option Response → Reply} {running : Running} {s : System σ} :
    (pollStream B i statement channel stage s).1.rest ≠
      .execute j statement' finish (some running) := by
  intro h
  have hflow : ∀ cursor held s', (flow B i statement channel cursor held s').1.rest ≠
      .execute j statement' finish (some running) := by
    intro cursor held s' h'
    have hchange := (polled_flow B i statement channel cursor held s').change
    rw [h'] at hchange
    nomatch hchange
  cases stage with
  | flowing cursor held => exact hflow cursor held s h
  | fresh =>
    cases htext : statement.isEmpty with
    | true =>
      rw [pollStream_of_isEmpty B i channel s htext] at h
      cases h
    | false =>
      by_cases hidle : s.slotOf i = .idle
      · rw [pollStream_of_idle B channel htext hidle] at h
        exact hflow _ _ _ h
      · rw [pollStream_of_busy B channel htext hidle] at h
        cases h

/-- A statement that a task waits for after a poll is the one before, or the poll started it and
then asked for its rows. -/
theorem rest_pollTask_cases {task : Task} {s : System σ} (hnew : s.slotOf s.sessionCount = .idle)
    {i : Nat} {statement : Statement} {finish : Option Response → Reply} {running : Running}
    (h : (pollTask B task s).1.rest = .execute i statement finish (some running)) :
    task = .execute i statement finish (some running) ∨
      (startStatement B i statement (s.reserved i)).1 = running ∧
        pollTask B task s = awaitRows B i statement finish running
          (startStatement B i statement (s.reserved i)).2 := by
  have hon := (polled_pollTask B task hnew).statementOn (i, statement) (by rw [h]; rfl)
  cases task with
  | absent => cases hon
  | acquire settings connection => cases hon
  | validate j asked => cases hon
  | destroy j asked => cases hon
  | cancel j target => cases hon
  | stream j statement' channel stage => exact absurd h rest_pollStream
  | execute j statement' finish' running' =>
    cases hon
    cases running' with
    | some running' => exact .inl (rest_awaitRows h)
    | none =>
      have hpoll : pollTask B (.execute i statement finish' none) s =
        pollExecute B i statement finish' none s := rfl
      rw [hpoll] at h ⊢
      cases htext : statement.isEmpty with
      | true =>
        rw [pollExecute_of_isEmpty B i finish' s htext] at h
        cases h
      | false =>
        by_cases hidle : s.slotOf i = .idle
        · rw [pollExecute_of_idle B finish' htext hidle] at h ⊢
          have hrest := rest_awaitRows h
          cases hrest
          exact .inr ⟨rfl, rfl⟩
        · rw [pollExecute_of_busy B finish' htext hidle] at h
          cases h

/-- The session was asked to run what a task waits for that did not wait for it before. -/
theorem started_pollTask {task : Task} {s : System σ} (hnew : s.slotOf s.sessionCount = .idle)
    {i : Nat} {statement : Statement} {finish : Option Response → Reply} {running : Running}
    (h : (pollTask B task s).1.rest = .execute i statement finish (some running)) :
    task = .execute i statement finish (some running) ∨
      ⟨i, .execute running (.buffered statement)⟩ ∈ (pollTask B task s).2.events := by
  refine (rest_pollTask_cases hnew h).imp_right ?_
  rintro ⟨rfl, hpoll⟩
  rw [hpoll]
  exact (asks_awaitRows B i statement _ _ _).mem (mem_events_startStatement i statement _)

/-- What was started stays so while tasks wait for nothing else. -/
theorem Started.grow {s s' : System σ} (started : Started s)
    (hmem : ∀ event ∈ s.events, event ∈ s'.events)
    (htask : ∀ n i statement finish running,
      s'.tasks n = .execute i statement finish (some running) →
        s.tasks n = .execute i statement finish (some running) ∨
          ⟨i, .execute running (.buffered statement)⟩ ∈ s'.events) : Started s' := by
  intro n i statement finish running h
  rcases htask n i statement finish running h with hold | hnew
  · exact hmem _ (started n i statement finish running hold)
  · exact hnew

/-- A task that waits for a statement after a happening did so before, or was polled. -/
theorem tasks_act_cases {s : System σ} (hnew : s.slotOf s.sessionCount = .idle) {a : Action σ}
    (ha : Allowed s a) {n i : Nat} {statement : Statement} {finish : Option Response → Reply}
    {running : Running}
    (h : (System.act B s a).tasks n = .execute i statement finish (some running)) :
    s.tasks n = .execute i statement finish (some running) ∨
      a = .poll n ∧
        (pollTask B (s.tasks n) s).1.rest = .execute i statement finish (some running) := by
  cases a with
  | poll m =>
    have hact : System.act B s (.poll m) = (s.poll B m).2 := rfl
    rw [hact] at h
    by_cases hn : n = m
    · subst hn
      exact .inr ⟨rfl, (tasks_poll_self B n s).symm.trans h⟩
    · refine .inl ?_
      rw [poll_snd] at h
      rw [← (polled_pollTask B (s.tasks m) hnew).frame.tasks]
      exact (Numbered.put_of_ne _ _ hn).symm.trans h
  | drop m =>
    by_cases hn : n = m
    · subst hn
      cases (Numbered.put_self _ _ _).symm.trans h
    · refine .inl ?_
      rw [← (pollFrame_dropTask B (s.tasks m) s).tasks]
      exact (Numbered.put_of_ne _ _ hn).symm.trans h
  | begin task =>
    by_cases hn : n = s.taskCount
    · subst hn
      have htask : task = .execute i statement finish (some running) :=
        (Numbered.put_self _ _ _).symm.trans h
      have hfresh := ha.1
      rw [htask] at hfresh
      cases hfresh
    · exact .inl ((Numbered.put_of_ne _ _ hn).symm.trans h)
  | openChannel capacity => exact .inl h
  | receive channel => exact .inl h
  | dropReceiver channel => exact .inl h
  | reportError j e => exact .inl h
  | backend change => exact .inl h

theorem Started.act {s : System σ} (started : Started s)
    (hnew : s.slotOf s.sessionCount = .idle) {a : Action σ} (ha : Allowed s a) :
    Started (System.act B s a) := by
  refine started.grow (fun _ => (asks_act B s a).mem) fun n i statement finish running h => ?_
  rcases tasks_act_cases hnew ha h with hold | ⟨rfl, hrest⟩
  · exact .inl hold
  · have hact : System.act B s (.poll n) = (s.poll B n).2 := rfl
    rw [hact, poll_snd]
    exact started_pollTask hnew hrest

theorem started_of_reachable {s : System σ} (h : Reachable B s) : Started s := by
  induction h with
  | start b => exact fun _ _ _ _ _ h => nomatch h
  | act hs ha ih => exact ih.act (slotLaw_of_reachable hs).slotOf_sessionCount ha

/-! ## The law -/

theorem Agree.idle_iff {s : System σ} (agree : Agree s) (i : Nat) :
    s.slotOf i = .idle ↔ ∀ n, ¬ (s.tasks n).Holds i := by
  constructor
  · rintro hidle n ⟨slot, hheld⟩
    have hslot := agree.held n i slot hheld
    rw [hidle] at hslot
    exact Task.slot_ne_idle_of_held? hheld hslot.symm
  · intro hnone
    by_contra hbusy
    obtain ⟨n, hn⟩ := agree.holder i hbusy
    exact hnone n ⟨_, hn⟩

theorem poll_of_refused {s : System σ} {n i : Nat} (hwant : (s.tasks n).wanting? = some i)
    (hbusy : s.slotOf i ≠ .idle) :
    (s.poll B n).1 = some (.error (.statementInProgress (busyName (s.slotOf i)))) ∧
      Untouched s (s.poll B n).2 := by
  rw [poll_fst, poll_snd]
  rcases wanting?_eq_some hwant with ⟨statement, finish, htext, htask⟩ |
    ⟨statement, channel, htext, htask⟩
  · have hpoll : pollTask B (s.tasks n) s = _ :=
      (congrArg (pollTask B · s) htask).trans (pollExecute_of_busy B finish htext hbusy)
    rw [hpoll]
    exact ⟨rfl, rfl, rfl, rfl⟩
  · have hpoll : pollTask B (s.tasks n) s = _ :=
      (congrArg (pollTask B · s) htask).trans (pollStream_of_busy B channel htext hbusy)
    rw [hpoll]
    exact ⟨rfl, rfl, rfl, rfl⟩

theorem poll_of_blank {s : System σ} {n : Nat} {result : Except ClientError Reply}
    (hblank : (s.tasks n).blankResult? = some result) :
    (s.poll B n).1 = some result ∧ Untouched s (s.poll B n).2 := by
  rw [poll_fst, poll_snd]
  generalize s.tasks n = task at hblank ⊢
  unfold Task.blankResult? at hblank
  split at hblank
  · next i statement finish =>
    split_ifs at hblank with htext
    cases hblank
    have hpoll : pollTask B (.execute i statement finish none) s = _ :=
      pollExecute_of_isEmpty B i finish s htext
    rw [hpoll]
    exact ⟨rfl, rfl, rfl, rfl⟩
  · next i statement channel =>
    split_ifs at hblank with htext
    cases hblank
    have hpoll : pollTask B (.stream i statement channel .fresh) s = _ :=
      pollStream_of_isEmpty B i channel s htext
    rw [hpoll]
    exact ⟨rfl, rfl, rfl, rfl⟩
  · cases hblank

/-- A holder that is polled holds on, or is finished and leaves the slot idle. -/
theorem Polled.slot_of_held {task : Task} {s : System σ} {r : Step × System σ} {i : Nat}
    {slot : Slot} (h : Polled task s r) (hheld : task.held? = some (i, slot)) :
    if r.1.result?.isSome then r.2.slotOf i = .idle else r.1.rest.Holds i := by
  split_ifs with hsome
  · obtain ⟨result, hresult⟩ := Option.isSome_iff_exists.mp hsome
    have hrest : r.1.rest.held? = none := by
      cases hstep : r.1 with
      | pending task' =>
        rw [hstep] at hresult
        cases hresult
      | ready result' => rfl
    have hchange := h.change
    rw [hheld, hrest] at hchange
    cases hchange with
    | freed _ _ hslot => exact (hslot i).trans (if_pos rfl)
  · exact ⟨slot, h.waits (Option.not_isSome_iff_eq_none.mp hsome) _ hheld⟩

theorem poll_of_held {s : System σ} (law : SlotLaw s) {n i : Nat}
    (h : (s.tasks n).Holds i ∨ (s.tasks n).wanting? = some i ∧ s.slotOf i = .idle) :
    if (s.poll B n).1.isSome then (s.poll B n).2.slotOf i = .idle
    else ((s.poll B n).2.tasks n).Holds i := by
  have hslot : (s.poll B n).2.slotOf i = (pollTask B (s.tasks n) s).2.slotOf i := by
    rw [poll_snd]
    rfl
  rw [tasks_poll_self, hslot, poll_fst]
  rcases h with ⟨slot, hheld⟩ | ⟨hwant, hidle⟩
  · exact (polled_pollTask B (s.tasks n) law.slotOf_sessionCount).slot_of_held hheld
  · rw [pollTask_of_idle B hwant hidle]
    rcases wanting?_eq_some hwant with ⟨statement, finish, _, htask⟩ |
      ⟨statement, channel, _, htask⟩
    · rw [htask]
      exact (polled_awaitRows B i statement finish _ _).slot_of_held rfl
    · rw [htask]
      exact (polled_flow B i statement channel _ none _).slot_of_held rfl

theorem slotOf_drop {s : System σ} {n i : Nat} (h : (s.tasks n).Holds i) :
    (s.drop B n).slotOf i = .idle := by
  obtain ⟨slot, hheld⟩ := h
  have hchange := slotChange_dropTask B (s.tasks n) s
  rw [hheld] at hchange
  cases hchange with
  | freed _ _ hslot => exact (hslot i).trans (if_pos rfl)

/-- Whatever the schedule and the driver, there is one statement at a time on a connection. -/
theorem oneStatement_of_reachable {s : System σ} (h : Reachable B s) : OneStatement B s := by
  have law := slotLaw_of_reachable h
  have started := started_of_reachable h
  exact
    { unique := fun m n i ⟨_, hm⟩ ⟨_, hn⟩ => law.unique m n i _ _ hm hn
      idle_iff := law.idle_iff
      buffered := fun n i statement finish running htask =>
        ⟨law.held n i _ (by rw [htask]; rfl), started n i statement finish running htask⟩
      streaming := fun n i _ _ _ _ htask => law.held n i _ (by rw [htask]; rfl)
      starts := asks_act B s
      reserves := fun _ _ hwant hidle => pollTask_of_idle B hwant hidle
      refused := fun _ _ hwant hbusy => poll_of_refused hwant hbusy
      blank := fun _ _ hblank => poll_of_blank hblank
      finished := fun _ _ hheld => poll_of_held law hheld
      dropped := fun _ _ hheld => slotOf_drop hheld }

/-- A statement as a task, which gives its response. -/
def selectOne : Task := .execute 0 (.ofSql "select 1") (.response .raw) none

/-- A connection that runs a statement which the driver holds, while another task waits. -/
def heldStatement : System Rehearsal :=
  run Rehearsal.backend { backend := { holdsNext := true } }
    [.begin (.acquire {} none), .poll 0, .begin selectOne, .poll 1, .begin selectOne]

theorem oneStatement_heldStatement :
    Reachable Rehearsal.backend heldStatement ∧
      heldStatement.slotOf 0 = .running ⟨0, ⟨"q0", "select 1"⟩⟩ ∧
      OneStatement Rehearsal.backend heldStatement := by
  have hreach : Reachable Rehearsal.backend heldStatement := by
    have hacquired := ((Reachable.start (B := Rehearsal.backend) { holdsNext := true }).act
      (a := .begin (.acquire {} none)) ⟨rfl, fun _ h => nomatch h⟩).poll 0
    have hrunning := (hacquired.act (a := .begin selectOne)
      ⟨rfl, fun w h => by cases h; decide⟩).poll 1
    exact hrunning.act (a := .begin selectOne) ⟨rfl, fun w h => by cases h; decide⟩
  exact ⟨hreach, rfl, oneStatement_of_reachable hreach⟩

end System

end SnowflakeSql
