import SnowflakeSql.Proofs.Session.SlotLaw
import SnowflakeSql.Session.Script

/-!
# Runs

A run is a buffered statement whose reply is the outcome of its response (`Client.runTask`).
Whatever happens after it began, its task stays the same until it is finished or given up, except
that the statement is started (`runs_of_later`).  So what a run returns is settled by the rows
that the driver answers at the last of its polls: `Client.Returns` says it of every driver and
every schedule, and `returns_of_outcome` reads it off the outcome.
-/

namespace SnowflakeSql

/-- The task of running a statement for its outcome, with what is running for it. -/
def Client.runTask (client : Client) (i : Nat) (statement : Statement)
    (running : Option Running) : Task :=
  .execute i statement (fun response => .outcome (client.outcome statement response)) running

namespace System

variable {σ : Type} {B : Backend σ}

/-- Some sequence of happenings leads from the first state to the second. -/
inductive Later (B : Backend σ) (s : System σ) : System σ → Prop where
  | refl : Later B s s
  | act {s' : System σ} {a : Action σ} : Later B s s' → Allowed s' a → Later B s (act B s' a)

theorem Later.reachable {s s' : System σ} (h : Later B s s') (hs : Reachable B s) :
    Reachable B s' := by
  induction h with
  | refl => exact hs
  | act _ ha ih => exact ih.act ha

/-- What the driver answers when a buffered statement is polled, which starts it if need be. -/
def answerAt (B : Backend σ) (n : Nat) (s : System σ) : Answer (Option (List Json)) :=
  match s.tasks n with
  | .execute _ _ _ (some running) => (B.rows running.execution s.backend).1
  | .execute i statement _ none =>
    let (running, started) := startStatement B i statement (s.reserved i)
    (B.rows running.execution started.backend).1
  | _ => none

/-! ## One poll -/

section Buffered

variable {i : Nat} {statement : Statement} {finish : Option Response → Reply}

theorem rest_awaitRows_cases (running : Running) (s : System σ) :
    (awaitRows B i statement finish running s).1.rest = .absent ∨
      (awaitRows B i statement finish running s).1.rest =
        .execute i statement finish (some running) := by
  unfold awaitRows
  split
  · exact .inr rfl
  · exact .inl rfl
  · exact .inl rfl

/-- A buffered statement that is not finished by a poll waits for its rows. -/
theorem rest_pollExecute_cases (running : Option Running) (s : System σ) :
    (pollExecute B i statement finish running s).1.rest = .absent ∨
      ∃ running', (pollExecute B i statement finish running s).1.rest =
        .execute i statement finish (some running') := by
  cases running with
  | some running => exact (rest_awaitRows_cases running s).imp_right fun h => ⟨running, h⟩
  | none =>
    cases htext : statement.isEmpty with
    | true =>
      rw [pollExecute_of_isEmpty B i finish s htext]
      exact .inl rfl
    | false =>
      by_cases hidle : s.slotOf i = .idle
      · rw [pollExecute_of_idle B finish htext hidle]
        exact (rest_awaitRows_cases _ _).imp_right fun h => ⟨_, h⟩
      · rw [pollExecute_of_busy B finish htext hidle]
        exact .inl rfl

theorem result?_awaitRows {running : Running} {s : System σ} {rows : Option (List Json)}
    (h : (B.rows running.execution s.backend).1 = some (.ok rows)) :
    (awaitRows B i statement finish running s).1.result? =
      some (.ok (finish (some { rows := rows, statement := some running.info }))) := by
  unfold awaitRows
  split
  · next heq => rw [heq] at h; cases h
  · next heq => rw [heq] at h; cases h; rfl
  · next heq => rw [heq] at h; cases h

/-- The poll at which the driver answers finishes the statement with the response. -/
theorem poll_of_answerAt {n : Nat} {running : Option Running} {s : System σ}
    {rows : Option (List Json)} (htask : s.tasks n = .execute i statement finish running)
    (htext : statement.isEmpty = false) (hidle : running = none → s.slotOf i = .idle)
    (h : s.answerAt B n = some (.ok rows)) :
    ∃ info, (s.poll B n).1 =
      some (.ok (finish (some { rows := rows, statement := some info }))) := by
  unfold answerAt at h
  rw [htask] at h
  rw [poll_fst, htask]
  cases running with
  | some running => exact ⟨running.info, result?_awaitRows h⟩
  | none =>
    refine ⟨(startStatement B i statement (s.reserved i)).1.info, ?_⟩
    unfold pollTask
    dsimp only
    rw [pollExecute_of_idle B finish htext (hidle rfl)]
    exact result?_awaitRows h

end Buffered

/-! ## All that happens -/

theorem PollFrame.tasks_setTask {s s' : System σ} (frame : PollFrame s s') {n : Nat} (m : Nat)
    (task : Task) : (s'.setTask m task).tasks n = if n = m then task else s.tasks n := by
  rw [← frame.tasks]
  rfl

/-- The happening is a poll of the task, or its end. -/
def Action.isOf (n : Nat) : Action σ → Bool
  | .poll m | .drop m => m = n
  | _ => false

/-- A happening forgets no task, no session and no statement, and creates no transaction. -/
structure ActFrame (s s' : System σ) : Prop where
  taskCount : s.taskCount ≤ s'.taskCount
  sessionCount : s.sessionCount ≤ s'.sessionCount
  executionCount : s.executionCount ≤ s'.executionCount
  nextTransaction : s'.nextTransaction = s.nextTransaction

theorem PollFrame.actFrame {s s' : System σ} (frame : PollFrame s s') (n : Nat) (task : Task) :
    ActFrame s (s'.setTask n task) :=
  ⟨Nat.le_of_eq frame.taskCount.symm, frame.sessionCount, frame.executionCount,
    frame.nextTransaction⟩

theorem actFrame_act {s : System σ} (law : SlotLaw s) (a : Action σ) :
    ActFrame s (System.act B s a) := by
  cases a with
  | begin task => exact ⟨Nat.le_succ _, Nat.le_refl _, Nat.le_refl _, rfl⟩
  | poll m =>
    show ActFrame s (s.poll B m).2
    rw [poll_snd]
    exact (polled_pollTask B (s.tasks m) law.slotOf_sessionCount).frame.actFrame m _
  | drop m => exact (pollFrame_dropTask B (s.tasks m) s).actFrame m _
  | openChannel capacity => exact ⟨Nat.le_refl _, Nat.le_refl _, Nat.le_refl _, rfl⟩
  | receive channel => exact ⟨Nat.le_refl _, Nat.le_refl _, Nat.le_refl _, rfl⟩
  | dropReceiver channel => exact ⟨Nat.le_refl _, Nat.le_refl _, Nat.le_refl _, rfl⟩
  | reportError j e => exact ⟨Nat.le_refl _, Nat.le_refl _, Nat.le_refl _, rfl⟩
  | backend change => exact ⟨Nat.le_refl _, Nat.le_refl _, Nat.le_refl _, rfl⟩

/-- A task that has begun changes by its own happenings only. -/
theorem tasks_act_of_not_isOf {s : System σ} (law : SlotLaw s) {n : Nat} (hn : n < s.taskCount)
    {a : Action σ} (h : a.isOf n = false) : (System.act B s a).tasks n = s.tasks n := by
  cases a with
  | begin task =>
    -- The number of a new task has not been given out yet.
    exact Numbered.put_of_ne _ _ (Nat.ne_of_lt hn)
  | poll m =>
    have hframe := (polled_pollTask B (s.tasks m) law.slotOf_sessionCount).frame
    have hne : n ≠ m := fun hnm => of_decide_eq_false h hnm.symm
    show (s.poll B m).2.tasks n = _
    rw [poll_snd, hframe.tasks_setTask, if_neg hne]
  | drop m =>
    have hne : n ≠ m := fun hnm => of_decide_eq_false h hnm.symm
    show (s.drop B m).tasks n = _
    unfold drop
    rw [(pollFrame_dropTask B (s.tasks m) s).tasks_setTask, if_neg hne]
  | openChannel capacity => rfl
  | receive channel => rfl
  | dropReceiver channel => rfl
  | reportError j e => rfl
  | backend change => rfl

/-- A task that has begun changes by being polled or given up only. -/
theorem tasks_act {s : System σ} (law : SlotLaw s) {n : Nat} (hn : n < s.taskCount)
    (a : Action σ) : n < (System.act B s a).taskCount ∧
      ((System.act B s a).tasks n = s.tasks n ∨ (System.act B s a).tasks n = .absent ∨
        a = .poll n ∧ (System.act B s a).tasks n = (pollTask B (s.tasks n) s).1.rest) := by
  refine ⟨Nat.lt_of_lt_of_le hn (actFrame_act law a).taskCount, ?_⟩
  by_cases hof : a.isOf n = true
  · cases a with
    | poll m =>
      obtain rfl : m = n := of_decide_eq_true hof
      exact .inr (.inr ⟨rfl, tasks_poll_self B m s⟩)
    | drop m =>
      obtain rfl : m = n := of_decide_eq_true hof
      exact .inr (.inl (Numbered.put_self _ _ _))
    | _ => cases hof
  · exact .inl (tasks_act_of_not_isOf law hn (Bool.eq_false_iff.mpr hof))

theorem SlotLaw.lt_taskCount {s : System σ} (law : SlotLaw s) {n : Nat}
    (h : s.tasks n ≠ .absent) : n < s.taskCount := by
  by_contra hunused
  exact h (law.unused n (Nat.le_of_not_lt hunused))

/-- The task runs the statement for a response as a whole, or it is gone. -/
def Executes (i : Nat) (statement : Statement) (finish : Option Response → Reply)
    (task : Task) : Prop :=
  task = .absent ∨ ∃ running, task = .execute i statement finish running

section Executes

variable {i n : Nat} {statement : Statement} {finish : Option Response → Reply}

theorem Executes.rest_pollTask {task : Task} (h : Executes i statement finish task)
    (s : System σ) : Executes i statement finish (pollTask B task s).1.rest := by
  rcases h with rfl | ⟨running, rfl⟩
  · exact .inl rfl
  · exact (rest_pollExecute_cases running s).imp_right fun ⟨running', hrest⟩ => ⟨running', hrest⟩

/-- A happening at most starts or ends a buffered statement, and takes its number for nothing
else. -/
theorem Executes.act {s : System σ} (law : SlotLaw s)
    (h : Executes i statement finish (s.tasks n)) (hn : n < s.taskCount) (a : Action σ) :
    Executes i statement finish ((System.act B s a).tasks n) ∧
      n < (System.act B s a).taskCount := by
  obtain ⟨hcount, hsame | habsent | ⟨-, hpolled⟩⟩ := tasks_act (B := B) law hn a
  · exact ⟨hsame ▸ h, hcount⟩
  · exact ⟨.inl habsent, hcount⟩
  · exact ⟨hpolled ▸ h.rest_pollTask s, hcount⟩

end Executes

/-- The task is the run, or it is gone. -/
def Runs (client : Client) (i : Nat) (statement : Statement) (task : Task) : Prop :=
  task = .absent ∨ ∃ running, task = client.runTask i statement running

variable {client : Client} {i n : Nat} {statement : Statement}

/-- Whatever happens, a run is the same run until it is finished or given up. -/
theorem runs_of_later {s s' : System σ} (hs : Reachable B s) (hlater : Later B s s')
    (htask : s.tasks n = client.runTask i statement none) :
    Runs client i statement (s'.tasks n) := by
  have hn : n < s.taskCount :=
    (slotLaw_of_reachable hs).lt_taskCount (by rw [htask]; exact nofun)
  have hboth : Runs client i statement (s'.tasks n) ∧ n < s'.taskCount := by
    induction hlater with
    | refl => exact ⟨.inr ⟨none, htask⟩, hn⟩
    | act hlater _ ih => exact Executes.act (slotLaw_of_reachable (hlater.reachable hs)) ih.1 ih.2 _
  exact hboth.1

end System

/-- However a run of the statement goes on after it began: if the driver answers a poll of it with
the rows, having started the statement on an idle connection, it returns the outcome. -/
def Client.Returns (client : Client) (statement : Statement) (rows : Option (List Json))
    (outcome : Outcome) : Prop :=
  ∀ (σ : Type) (B : Backend σ) (s s' : System σ) (i n : Nat), System.Reachable B s →
    s.tasks n = client.runTask i statement none → System.Later B s s' →
    (s'.tasks n = client.runTask i statement none → s'.slotOf i = .idle) →
    s'.answerAt B n = some (.ok rows) → (s'.poll B n).1 = some (.ok (.outcome outcome))

/-- A run returns the outcome of its response. -/
theorem Client.returns_of_outcome {client : Client} {statement : Statement}
    {rows : Option (List Json)} {outcome : Outcome} (htext : statement.isEmpty = false)
    (h : ∀ info,
      client.outcome statement (some { rows := rows, statement := some info }) = outcome) :
    client.Returns statement rows outcome := by
  intro σ B s s' i n hs htask hlater hidle hanswer
  rcases System.runs_of_later hs hlater htask with habsent | ⟨running, hrun⟩
  · -- A run that is over is not polled for rows.
    unfold System.answerAt at hanswer
    rw [habsent] at hanswer
    cases hanswer
  · obtain ⟨info, hpoll⟩ := System.poll_of_answerAt hrun htext
      (fun hnone => hidle (hnone ▸ hrun)) hanswer
    rw [hpoll, h info]

/-- The rehearsed driver answers at the first poll. -/
example :
    let s : System Rehearsal := { backend := { answers := [.ok (some [.int 1])] } }
    ((s.begin (Client.runTask {} 0 (.ofSql "select 1") none)).2.poll Rehearsal.backend 0).1 =
      some (.ok (.outcome (.raw
        { rows := some [.int 1], statement := some ⟨"q0", "select 1"⟩ }))) := rfl

end SnowflakeSql
