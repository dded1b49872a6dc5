import SnowflakeSql.Proofs.Session.Reach

/-!
# Who holds a slot

A task that has started its statement holds the slot of its connection until it is finished or
given up (`Task.held?`): a buffered one keeps its own statement there, a stream keeps the slot
reserved.  A poll takes a free slot, frees the one its task holds, or leaves all slots as they
are (`SlotChange`); `Polled` says so of one task, and `polled_pollTask` proves it of every one.
-/

namespace SnowflakeSql

/-- The connection whose slot a task holds, and what the task keeps there. -/
def Task.held? : Task → Option (Nat × Slot)
  | .execute i _ _ (some running) => some (i, .running running)
  | .stream i _ _ (.flowing _ _) => some (i, .starting)
  | _ => none

theorem Task.slot_ne_idle_of_held? {task : Task} {i : Nat} {slot : Slot}
    (h : task.held? = some (i, slot)) : slot ≠ .idle := by
  unfold held? at h
  split at h <;> cases h <;> exact Slot.noConfusion

theorem Task.statementOn?_of_held? {task : Task} {i : Nat} {slot : Slot}
    (h : task.held? = some (i, slot)) : ∃ statement, task.statementOn? = some (i, statement) := by
  unfold held? at h
  split at h <;> cases h <;> exact ⟨_, rfl⟩

theorem Task.IsFresh.held?_eq_none {task : Task} (h : task.IsFresh) : task.held? = none := by
  unfold IsFresh at h
  unfold held?
  split <;> simp_all

namespace System

variable {σ : Type} (B : Backend σ)

/-- What is left of a task after a poll. -/
def Step.rest : Step → Task
  | .pending task => task
  | .ready _ => .absent

/-- The result of a task that a poll finishes. -/
def Step.result? : Step → Option (Except ClientError Reply)
  | .pending _ => none
  | .ready result => some result

/-- What the slot of a connection holds. -/
def slotOf (s : System σ) (i : Nat) : Slot := (s.connections i).slot

theorem poll_fst (n : Nat) (s : System σ) :
    (s.poll B n).1 = (pollTask B (s.tasks n) s).1.result? := by
  unfold poll
  split <;> next h => rw [h]; rfl

theorem poll_snd (n : Nat) (s : System σ) :
    (s.poll B n).2 =
      (pollTask B (s.tasks n) s).2.setTask n (pollTask B (s.tasks n) s).1.rest := by
  unfold poll
  split <;> next h => rw [h]; rfl

theorem tasks_poll_self (n : Nat) (s : System σ) :
    (s.poll B n).2.tasks n = (pollTask B (s.tasks n) s).1.rest := by
  rw [poll_snd]
  exact Numbered.put_self _ _ _

/-! ## What one poll does to the slots -/

/-- How slots change while a task goes from holding `before` to holding `after`. -/
inductive SlotChange (s s' : System σ) : (before after : Option (Nat × Slot)) → Prop where
  | kept (held : Option (Nat × Slot)) : (∀ j, s'.slotOf j = s.slotOf j) → SlotChange s s' held held
  | taken (i : Nat) (slot : Slot) : s.slotOf i = .idle →
      (∀ j, s'.slotOf j = if j = i then slot else s.slotOf j) →
      SlotChange s s' none (some (i, slot))
  | freed (i : Nat) (slot : Slot) :
      (∀ j, s'.slotOf j = if j = i then .idle else s.slotOf j) →
      SlotChange s s' (some (i, slot)) none

theorem slotOf_setConnection (s : System σ) (i j : Nat) (c : Connection) :
    (s.setConnection i c).slotOf j = if j = i then c.slot else s.slotOf j := by
  unfold slotOf setConnection Numbered.put
  dsimp only
  split_ifs <;> rfl

theorem slotOf_releaseSlot (s : System σ) (i j : Nat) :
    (s.releaseSlot i).slotOf j = if j = i then .idle else s.slotOf j :=
  slotOf_setConnection s i j _

/-- A connection changed otherwise than in its slot. -/
theorem slotOf_setConnection_of_slot_eq {s : System σ} {i : Nat} {c : Connection}
    (h : c.slot = s.slotOf i) (j : Nat) : (s.setConnection i c).slotOf j = s.slotOf j := by
  rw [slotOf_setConnection]
  split_ifs with hj
  · rw [h, hj]
  · rfl

/-- Taking a slot and then going on holding it, or freeing it again. -/
theorem SlotChange.trans {s s₁ s₂ : System σ} {i : Nat} {slot : Slot}
    {after : Option (Nat × Slot)} (h₁ : SlotChange s s₁ none (some (i, slot)))
    (h₂ : SlotChange s₁ s₂ (some (i, slot)) after) : SlotChange s s₂ none after := by
  cases h₁ with
  | taken _ _ hidle hs₁ =>
    cases h₂ with
    | kept _ hs₂ => exact .taken i slot hidle fun j => (hs₂ j).trans (hs₁ j)
    | freed _ _ hs₂ =>
      refine .kept none fun j => ?_
      rw [hs₂, hs₁]
      split_ifs with hj
      · rw [hj, hidle]
      · rfl

/-- Slots that are as they were may be counted from either state. -/
theorem SlotChange.of_slotOf_eq {s s₁ s₂ : System σ} {before after : Option (Nat × Slot)}
    (h : ∀ j, s₁.slotOf j = s.slotOf j) (h₂ : SlotChange s₁ s₂ before after) :
    SlotChange s s₂ before after := by
  cases h₂ with
  | kept _ hs => exact .kept before fun j => (hs j).trans (h j)
  | taken i slot hidle hs =>
    exact .taken i slot ((h i).symm.trans hidle) fun j => by rw [hs, h]
  | freed i slot hs => exact .freed i slot fun j => by rw [hs, h]

theorem SlotChange.setTask {s s' : System σ} {before after : Option (Nat × Slot)}
    (h : SlotChange s s' before after) (n : Nat) (task : Task) :
    SlotChange s (s'.setTask n task) before after := by
  cases h with
  | kept _ hs => exact .kept before hs
  | taken i slot hidle hs => exact .taken i slot hidle hs
  | freed i slot hs => exact .freed i slot hs

/-- The tasks of a system, and how far its numbers of other things have come. -/
def counts (s : System σ) : Numbered Task × Nat × Nat × Nat × UInt64 :=
  (s.tasks, s.taskCount, s.sessionCount, s.executionCount, s.nextTransaction)

/-- A poll changes no tasks itself, forgets no session and no statement, and creates no
transaction. -/
structure PollFrame (s s' : System σ) : Prop where
  tasks : s'.tasks = s.tasks
  taskCount : s'.taskCount = s.taskCount
  sessionCount : s.sessionCount ≤ s'.sessionCount
  executionCount : s.executionCount ≤ s'.executionCount
  nextTransaction : s'.nextTransaction = s.nextTransaction

/-- What polling `task` in `s` comes to, as far as slots and tasks go. -/
structure Polled (task : Task) (s : System σ) (r : Step × System σ) : Prop where
  change : SlotChange s r.2 task.held? r.1.rest.held?
  frame : PollFrame s r.2
  statementOn : ∀ w, r.1.rest.statementOn? = some w → task.statementOn? = some w
  waits : r.1.result? = none → ∀ w, task.held? = some w → r.1.rest.held? = some w

theorem pollFrame_of_eq {s s' : System σ} (h : s'.counts = s.counts) : PollFrame s s' := by
  obtain ⟨htasks, htask, hsession, hexecution, hnext⟩ : s'.tasks = s.tasks ∧
      s'.taskCount = s.taskCount ∧ s'.sessionCount = s.sessionCount ∧
      s'.executionCount = s.executionCount ∧ s'.nextTransaction = s.nextTransaction := by
    simpa only [counts, Prod.mk.injEq] using h
  exact ⟨htasks, htask, Nat.le_of_eq hsession.symm, Nat.le_of_eq hexecution.symm, hnext⟩

theorem PollFrame.trans {s s₁ s₂ : System σ} (h₁ : PollFrame s s₁) (h₂ : PollFrame s₁ s₂) :
    PollFrame s s₂ where
  tasks := h₂.tasks.trans h₁.tasks
  taskCount := h₂.taskCount.trans h₁.taskCount
  sessionCount := Nat.le_trans h₁.sessionCount h₂.sessionCount
  executionCount := Nat.le_trans h₁.executionCount h₂.executionCount
  nextTransaction := h₂.nextTransaction.trans h₁.nextTransaction

/-- A task that goes on waiting with all slots as they were. -/
theorem polled_pending {task task' : Task} {s s' : System σ} (hheld : task'.held? = task.held?)
    (hon : task'.statementOn? = task.statementOn?) (hslot : ∀ j, s'.slotOf j = s.slotOf j)
    (hframe : PollFrame s s') : Polled task s (.pending task', s') where
  change := by
    have hchange := SlotChange.kept task.held? hslot
    rwa [← hheld] at hchange ⊢
  frame := hframe
  statementOn _ h := hon ▸ h
  waits _ _ h := hheld.trans h

/-- A task that held nothing and finishes with all slots as they were. -/
theorem polled_ready {task : Task} {s s' : System σ} {result : Except ClientError Reply}
    (hheld : task.held? = none) (hslot : ∀ j, s'.slotOf j = s.slotOf j)
    (hframe : PollFrame s s') : Polled task s (.ready result, s') where
  change := hheld ▸ .kept none hslot
  frame := hframe
  statementOn _ h := nomatch h
  waits h := nomatch h

/-- A task that held a slot, finishes and frees it. -/
theorem polled_freed {task : Task} {s s' : System σ} {result : Except ClientError Reply} {i : Nat}
    {slot : Slot} (hheld : task.held? = some (i, slot))
    (hslot : ∀ j, s'.slotOf j = if j = i then .idle else s.slotOf j) (hframe : PollFrame s s') :
    Polled task s (.ready result, s') where
  change := hheld ▸ .freed i slot hslot
  frame := hframe
  statementOn _ h := nomatch h
  waits h := nomatch h

/-! ## Tasks that run no statement -/

theorem polled_awaitConnect (settings : Settings) (i : Nat) (s : System σ) :
    Polled (.acquire settings (some i)) s (awaitConnect B settings i s) := by
  unfold awaitConnect
  split
  · exact polled_pending rfl rfl (fun _ => rfl) (pollFrame_of_eq rfl)
  · exact polled_ready rfl (fun _ => rfl) (pollFrame_of_eq rfl)
  · exact polled_ready rfl (slotOf_setConnection_of_slot_eq rfl) (pollFrame_of_eq rfl)

theorem polled_awaitProbe (i : Nat) (s : System σ) :
    Polled (.validate i true) s (awaitProbe B i s) := by
  unfold awaitProbe
  split
  · exact polled_pending rfl rfl (fun _ => rfl) (pollFrame_of_eq rfl)
  · exact polled_ready rfl (fun _ => rfl) (pollFrame_of_eq rfl)
  · exact polled_ready rfl (fun _ => rfl) (pollFrame_of_eq rfl)

theorem polled_awaitClose (i : Nat) (s : System σ) :
    Polled (.destroy i true) s (awaitClose B i s) := by
  unfold awaitClose
  split
  · exact polled_pending rfl rfl (fun _ => rfl) (pollFrame_of_eq rfl)
  · exact polled_ready rfl (slotOf_setConnection_of_slot_eq rfl) (pollFrame_of_eq rfl)

theorem polled_awaitCancel (i : Nat) (target : Running) (s : System σ) :
    Polled (.cancel i (some target)) s (awaitCancel B i target s) := by
  unfold awaitCancel
  split
  · exact polled_pending rfl rfl (fun _ => rfl) (pollFrame_of_eq rfl)
  · exact polled_ready rfl (fun _ => rfl) (pollFrame_of_eq rfl)
  · exact polled_ready rfl (fun _ => rfl) (pollFrame_of_eq rfl)

/-- A poll after a change that leaves slots and tasks alone. -/
theorem Polled.after {task task' : Task} {s s₁ : System σ} {r : Step × System σ}
    (h : Polled task' s₁ r) (hheld : task'.held? = task.held?)
    (hon : task'.statementOn? = task.statementOn?) (hslot : ∀ j, s₁.slotOf j = s.slotOf j)
    (hframe : PollFrame s s₁) : Polled task s r where
  waits hnone w hw := h.waits hnone w (hheld.trans hw)
  change := hheld ▸ h.change.of_slotOf_eq hslot
  frame := hframe.trans h.frame
  statementOn w hw := hon ▸ h.statementOn w hw

/-- A new connection is idle, and so was its number before it was created. -/
theorem polled_pollAcquire (settings : Settings) (connection : Option Nat) {s : System σ}
    (hnew : s.slotOf s.sessionCount = .idle) :
    Polled (.acquire settings connection) s (pollAcquire B settings connection s) := by
  cases connection with
  | some i => exact polled_awaitConnect B settings i s
  | none =>
    refine (polled_awaitConnect B settings s.sessionCount _).after rfl rfl ?_
      ⟨rfl, rfl, Nat.le_succ _, Nat.le_refl _, rfl⟩
    intro j
    refine (slotOf_setConnection _ _ j _).trans ?_
    split_ifs with hj
    · rw [hj, hnew]
    · rfl

theorem polled_pollValidate (i : Nat) (asked : Bool) (s : System σ) :
    Polled (.validate i asked) s (pollValidate B i asked s) := by
  unfold pollValidate
  split_ifs with h
  · subst h
    exact polled_awaitProbe B i s
  · exact polled_ready rfl (fun _ => rfl) (pollFrame_of_eq rfl)
  · exact (polled_awaitProbe B i _).after rfl rfl (fun _ => rfl) (pollFrame_of_eq rfl)

theorem polled_pollDestroy (i : Nat) (asked : Bool) (s : System σ) :
    Polled (.destroy i asked) s (pollDestroy B i asked s) := by
  unfold pollDestroy
  split_ifs with h
  · subst h
    exact polled_awaitClose B i s
  · exact (polled_awaitClose B i _).after rfl rfl (fun _ => rfl) (pollFrame_of_eq rfl)

theorem polled_pollCancel (i : Nat) (target : Option Running) (s : System σ) :
    Polled (.cancel i target) s (pollCancel B i target s) := by
  unfold pollCancel
  split
  · exact polled_awaitCancel B i _ s
  · split
    · exact (polled_awaitCancel B i _ _).after rfl rfl (fun _ => rfl) (pollFrame_of_eq rfl)
    · exact polled_ready rfl (fun _ => rfl) (pollFrame_of_eq rfl)

/-! ## Statements that hold their slot -/

theorem polled_awaitRows (i : Nat) (statement : Statement) (finish : Option Response → Reply)
    (running : Running) (s : System σ) :
    Polled (.execute i statement finish (some running)) s
      (awaitRows B i statement finish running s) := by
  unfold awaitRows
  split
  · exact polled_pending rfl rfl (fun _ => rfl) (pollFrame_of_eq rfl)
  · exact polled_freed rfl (slotOf_releaseSlot _ i) (pollFrame_of_eq rfl)
  · exact polled_freed rfl (slotOf_releaseSlot _ i) (pollFrame_of_eq rfl)

theorem polled_endStream (i : Nat) (statement : Statement) (channel cursor : Nat)
    (held : Option Delivery) (result : Except ClientError Unit) (s : System σ) :
    Polled (.stream i statement channel (.flowing cursor held)) s (endStream i channel result s) :=
  polled_freed rfl (slotOf_releaseSlot s i) (pollFrame_of_eq rfl)

/-- However many deliveries a poll sends, the stream waits with its slot or ends and frees it. -/
theorem polled_sendAll (i : Nat) (statement : Statement) (channel cursor : Nat)
    (held : Option Delivery) (room : Nat) (delivery : Delivery) (s : System σ) :
    Polled (.stream i statement channel (.flowing cursor held)) s
      (sendAll B i statement channel cursor room delivery s) := by
  induction room generalizing delivery s with
  | zero =>
    unfold sendAll
    split_ifs
    · exact polled_endStream i statement channel cursor held _ s
    · exact polled_pending rfl rfl (fun _ => rfl) (pollFrame_of_eq rfl)
  | succ room ih =>
    unfold sendAll
    split_ifs
    · exact polled_endStream i statement channel cursor held _ s
    · dsimp only
      split
      · exact (polled_endStream i statement channel cursor held _ _).after rfl rfl (fun _ => rfl)
          (pollFrame_of_eq rfl)
      · split
        · exact polled_pending rfl rfl (fun _ => rfl) (pollFrame_of_eq rfl)
        · exact (polled_endStream i statement channel cursor held _ _).after rfl rfl
            (fun _ => rfl) (pollFrame_of_eq rfl)
        · exact (ih _ _).after rfl rfl (fun _ => rfl) (pollFrame_of_eq rfl)

theorem polled_flow (i : Nat) (statement : Statement) (channel cursor : Nat)
    (held : Option Delivery) (s : System σ) :
    Polled (.stream i statement channel (.flowing cursor held)) s
      (flow B i statement channel cursor held s) := by
  unfold flow
  split
  · exact polled_sendAll B i statement channel cursor _ _ _ s
  · split
    · exact polled_pending rfl rfl (fun _ => rfl) (pollFrame_of_eq rfl)
    · exact (polled_endStream i statement channel cursor none _ _).after rfl rfl (fun _ => rfl)
        (pollFrame_of_eq rfl)
    · exact (polled_sendAll B i statement channel cursor none _ _ _).after rfl rfl (fun _ => rfl)
        (pollFrame_of_eq rfl)

/-! ## Statements that start -/

/-- What a busy connection is said to be running. -/
def busyName : Slot → String
  | .running statement => statement.info.queryId
  | _ => "starting"

theorem reserve_of_idle {c : Connection} (h : c.slot = .idle) :
    c.reserve = .ok { c with slot := .starting } := by
  unfold Connection.reserve
  rw [h]

theorem reserve_of_busy {c : Connection} (h : c.slot ≠ .idle) :
    c.reserve = .error (.statementInProgress (busyName c.slot)) := by
  unfold Connection.reserve
  split
  · next hidle => exact absurd hidle h
  · next hstarting => rw [hstarting]; rfl
  · next hrunning => rw [hrunning]; rfl

/-- A poll that takes a free slot and then goes on as a task that holds it. -/
theorem Polled.start {task task' : Task} {s s₁ : System σ} {r : Step × System σ} {i : Nat}
    {slot : Slot} (h : Polled task' s₁ r) (hbefore : task.held? = none)
    (hheld : task'.held? = some (i, slot)) (hon : task'.statementOn? = task.statementOn?)
    (hidle : s.slotOf i = .idle) (hslot : ∀ j, s₁.slotOf j = if j = i then slot else s.slotOf j)
    (hframe : PollFrame s s₁) : Polled task s r where
  waits _ w hw := nomatch hbefore.symm.trans hw
  change := by
    rw [hbefore]
    have hrest := h.change
    rw [hheld] at hrest
    exact (SlotChange.taken i slot hidle hslot).trans hrest
  frame := hframe.trans h.frame
  statementOn w hw := hon ▸ h.statementOn w hw

/-- The state in which a connection is reserved. -/
def reserved (s : System σ) (i : Nat) : System σ :=
  s.setConnection i { s.connections i with slot := .starting }

theorem slotOf_reserved (s : System σ) (i j : Nat) :
    (s.reserved i).slotOf j = if j = i then .starting else s.slotOf j :=
  slotOf_setConnection s i j _

theorem pollFrame_startStatement (i : Nat) (statement : Statement) (s : System σ) :
    PollFrame s (startStatement B i statement s).2 := by
  unfold startStatement
  dsimp only
  split_ifs <;> exact ⟨rfl, rfl, Nat.le_refl _, Nat.le_succ _, rfl⟩

theorem slotOf_startStatement (i j : Nat) (statement : Statement) (s : System σ) :
    (startStatement B i statement s).2.slotOf j =
      if j = i then .running (startStatement B i statement s).1 else s.slotOf j := by
  unfold startStatement
  dsimp only
  split_ifs with h hj hj
  · exact (slotOf_setConnection _ i j _).trans (if_pos hj)
  · exact (slotOf_setConnection _ i j _).trans (if_neg hj)
  · exact (slotOf_setConnection _ i j _).trans (if_pos hj)
  · exact (slotOf_setConnection _ i j _).trans (if_neg hj)

/-- The first poll of a buffered statement on an idle connection. -/
theorem pollExecute_of_idle {i : Nat} {statement : Statement} (finish : Option Response → Reply)
    {s : System σ} (htext : statement.isEmpty = false) (hidle : s.slotOf i = .idle) :
    pollExecute B i statement finish none s =
      awaitRows B i statement finish (startStatement B i statement (s.reserved i)).1
        (startStatement B i statement (s.reserved i)).2 := by
  unfold pollExecute
  dsimp only
  rw [htext, reserve_of_idle hidle]
  rfl

/-- The first poll of a buffered statement on a busy connection. -/
theorem pollExecute_of_busy {i : Nat} {statement : Statement} (finish : Option Response → Reply)
    {s : System σ} (htext : statement.isEmpty = false) (hbusy : s.slotOf i ≠ .idle) :
    pollExecute B i statement finish none s =
      (.ready (.error (.statementInProgress (busyName (s.slotOf i)))), s) := by
  unfold pollExecute
  dsimp only
  rw [htext, reserve_of_busy hbusy]
  rfl

theorem pollExecute_of_isEmpty (i : Nat) {statement : Statement}
    (finish : Option Response → Reply) (s : System σ) (htext : statement.isEmpty = true) :
    pollExecute B i statement finish none s = (.ready (.ok (finish none)), s) := by
  unfold pollExecute
  dsimp only
  rw [if_pos htext]

theorem polled_pollExecute (i : Nat) (statement : Statement) (finish : Option Response → Reply)
    (running : Option Running) (s : System σ) :
    Polled (.execute i statement finish running) s
      (pollExecute B i statement finish running s) := by
  cases running with
  | some running => exact polled_awaitRows B i statement finish running s
  | none =>
    cases htext : statement.isEmpty with
    | true =>
      rw [pollExecute_of_isEmpty B i finish s htext]
      exact polled_ready rfl (fun _ => rfl) (pollFrame_of_eq rfl)
    | false =>
      by_cases hidle : s.slotOf i = .idle
      · rw [pollExecute_of_idle B finish htext hidle]
        refine (polled_awaitRows B i statement finish _ _).start rfl rfl rfl hidle (fun j => ?_)
          ?_
        · rw [slotOf_startStatement, slotOf_reserved]
          split_ifs <;> rfl
        · have hreserved : PollFrame s (s.reserved i) := pollFrame_of_eq rfl
          exact hreserved.trans (pollFrame_startStatement B i statement _)
      · rw [pollExecute_of_busy B finish htext hidle]
        exact polled_ready rfl (fun _ => rfl) (pollFrame_of_eq rfl)

/-- The state in which a stream has opened its cursor. -/
def cursorOpened (i : Nat) (statement : Statement) (s : System σ) : System σ :=
  ({ s with cursorCount := s.cursorCount + 1 }.setBackend
    (B.openCursor i s.cursorCount (Submission.streaming statement) s.backend)).record i
      (.stream (Submission.streaming statement))

/-- The first poll of a stream on an idle connection. -/
theorem pollStream_of_idle {i : Nat} {statement : Statement} (channel : Nat) {s : System σ}
    (htext : statement.isEmpty = false) (hidle : s.slotOf i = .idle) :
    pollStream B i statement channel .fresh s =
      flow B i statement channel s.cursorCount none
        (cursorOpened B i statement (s.reserved i)) := by
  unfold pollStream
  dsimp only
  rw [htext, reserve_of_idle hidle]
  rfl

/-- The first poll of a stream on a busy connection. -/
theorem pollStream_of_busy {i : Nat} {statement : Statement} (channel : Nat) {s : System σ}
    (htext : statement.isEmpty = false) (hbusy : s.slotOf i ≠ .idle) :
    pollStream B i statement channel .fresh s =
      (.ready (.error (.statementInProgress (busyName (s.slotOf i)))), s.dropSender channel) := by
  unfold pollStream
  dsimp only
  rw [htext, reserve_of_busy hbusy]
  rfl

theorem pollStream_of_isEmpty (i : Nat) {statement : Statement} (channel : Nat) (s : System σ)
    (htext : statement.isEmpty = true) :
    pollStream B i statement channel .fresh s =
      (.ready (.error .emptyQuery), s.dropSender channel) := by
  unfold pollStream
  dsimp only
  rw [if_pos htext]

theorem polled_pollStream (i : Nat) (statement : Statement) (channel : Nat) (stage : StreamStage)
    (s : System σ) :
    Polled (.stream i statement channel stage) s (pollStream B i statement channel stage s) := by
  cases stage with
  | flowing cursor held => exact polled_flow B i statement channel cursor held s
  | fresh =>
    cases htext : statement.isEmpty with
    | true =>
      rw [pollStream_of_isEmpty B i channel s htext]
      exact polled_ready rfl (fun _ => rfl) (pollFrame_of_eq rfl)
    | false =>
      by_cases hidle : s.slotOf i = .idle
      · rw [pollStream_of_idle B channel htext hidle]
        exact (polled_flow B i statement channel s.cursorCount none _).start rfl rfl rfl hidle
          (slotOf_reserved s i) (pollFrame_of_eq rfl)
      · rw [pollStream_of_busy B channel htext hidle]
        exact polled_ready rfl (fun _ => rfl) (pollFrame_of_eq rfl)

/-- One poll of any task. -/
theorem polled_pollTask (task : Task) {s : System σ} (hnew : s.slotOf s.sessionCount = .idle) :
    Polled task s (pollTask B task s) := by
  cases task with
  | absent => exact polled_pending rfl rfl (fun _ => rfl) (pollFrame_of_eq rfl)
  | acquire settings connection => exact polled_pollAcquire B settings connection hnew
  | validate i asked => exact polled_pollValidate B i asked s
  | destroy i asked => exact polled_pollDestroy B i asked s
  | cancel i target => exact polled_pollCancel B i target s
  | execute i statement finish running => exact polled_pollExecute B i statement finish running s
  | stream i statement channel stage => exact polled_pollStream B i statement channel stage s

/-! ## Tasks that are given up -/

theorem slotChange_dropTask (task : Task) (s : System σ) :
    SlotChange s (dropTask B task s) task.held? none := by
  unfold dropTask
  split
  · exact .freed _ _ (slotOf_releaseSlot _ _)
  · exact .freed _ _ (slotOf_releaseSlot _ _)
  · exact .kept none fun _ => rfl
  · next h₁ h₂ _ =>
    have hheld : task.held? = none := by
      unfold Task.held?
      split
      · exact absurd rfl (h₁ _ _ _ _)
      · exact absurd rfl (h₂ _ _ _ _ _)
      · rfl
    rw [hheld]
    exact .kept none fun _ => rfl

theorem pollFrame_dropTask (task : Task) (s : System σ) : PollFrame s (dropTask B task s) := by
  unfold dropTask
  split <;> exact pollFrame_of_eq rfl

end System

end SnowflakeSql
