import SnowflakeSql.Proofs.Session.Milestones

/-!
# Polls that change no connection but in its slot

Asking whether a connection can be used, running statements on it and stopping them may change
what its slot holds, and nothing else that is known of it (`SlotsOnly`, `quiet_pollTask`).  Only
opening a session, closing it and its errors do.
-/

namespace SnowflakeSql

namespace System

variable {σ : Type} (B : Backend σ)

/-- The connections differ at most in their slots; no session and no task is another one. -/
structure SlotsOnly (s s' : System σ) : Prop where
  release : ∀ j, (s'.connections j).release = (s.connections j).release
  sessionCount : s'.sessionCount = s.sessionCount
  tasks : s'.tasks = s.tasks

theorem slotsOnly_of_eq {s s' : System σ} (hc : s'.connections = s.connections)
    (hn : s'.sessionCount = s.sessionCount) (ht : s'.tasks = s.tasks) : SlotsOnly s s' :=
  ⟨fun j => by rw [hc], hn, ht⟩

theorem SlotsOnly.trans {s s₁ s₂ : System σ} (h₁ : SlotsOnly s s₁) (h₂ : SlotsOnly s₁ s₂) :
    SlotsOnly s s₂ :=
  ⟨fun j => (h₂.release j).trans (h₁.release j), h₂.sessionCount.trans h₁.sessionCount,
    h₂.tasks.trans h₁.tasks⟩

/-- One connection gets another slot. -/
theorem slotsOnly_of_put {s s' : System σ} {i : Nat} {c : Connection}
    (hc : s'.connections = s.connections.put i c)
    (hslot : c.release = (s.connections i).release) (hn : s'.sessionCount = s.sessionCount)
    (ht : s'.tasks = s.tasks) : SlotsOnly s s' := by
  refine ⟨fun j => ?_, hn, ht⟩
  rw [hc]
  by_cases hj : j = i
  · rw [hj, Numbered.put_self, hslot]
  · rw [Numbered.put_of_ne s.connections c hj]

/-- What polling a task comes to if it neither opens nor closes a session. -/
structure Quiet (task : Task) (s : System σ) (r : Step × System σ) : Prop where
  slots : SlotsOnly s r.2
  opens : ∀ i, r.1.rest.opens? = some i → task.opens? = some i
  uses : ∀ i, r.1.rest.uses? = some i → task.uses? = some i

theorem quiet_pending {task task' : Task} {s s' : System σ} (hopens : task'.opens? = task.opens?)
    (huses : task'.uses? = task.uses?) (h : SlotsOnly s s') :
    Quiet task s (.pending task', s') :=
  ⟨h, fun _ hi => hopens ▸ hi, fun _ hi => huses ▸ hi⟩

theorem quiet_ready {task : Task} {s s' : System σ} {result : Except ClientError Reply}
    (h : SlotsOnly s s') : Quiet task s (.ready result, s') := ⟨h, nofun, nofun⟩

/-- A poll after a change of slots. -/
theorem Quiet.after {task task' : Task} {s s₁ : System σ} {r : Step × System σ}
    (h : Quiet task' s₁ r) (hopens : task'.opens? = task.opens?)
    (huses : task'.uses? = task.uses?) (h₁ : SlotsOnly s s₁) : Quiet task s r :=
  ⟨h₁.trans h.slots, fun i hi => hopens ▸ h.opens i hi, fun i hi => huses ▸ h.uses i hi⟩

/-! ## Task by task -/

theorem quiet_awaitProbe (i : Nat) (s : System σ) :
    Quiet (.validate i true) s (awaitProbe B i s) := by
  unfold awaitProbe
  split
  · exact quiet_pending rfl rfl (slotsOnly_of_eq rfl rfl rfl)
  · exact quiet_ready (slotsOnly_of_eq rfl rfl rfl)
  · exact quiet_ready (slotsOnly_of_eq rfl rfl rfl)

theorem quiet_pollValidate (i : Nat) (asked : Bool) (s : System σ) :
    Quiet (.validate i asked) s (pollValidate B i asked s) := by
  unfold pollValidate
  split_ifs
  · exact (quiet_awaitProbe B i s).after rfl rfl (slotsOnly_of_eq rfl rfl rfl)
  · exact quiet_ready (slotsOnly_of_eq rfl rfl rfl)
  · exact (quiet_awaitProbe B i _).after rfl rfl (slotsOnly_of_eq rfl rfl rfl)

theorem quiet_awaitCancel (i : Nat) (target : Running) (s : System σ) :
    Quiet (.cancel i (some target)) s (awaitCancel B i target s) := by
  unfold awaitCancel
  split
  · exact quiet_pending rfl rfl (slotsOnly_of_eq rfl rfl rfl)
  · exact quiet_ready (slotsOnly_of_eq rfl rfl rfl)
  · exact quiet_ready (slotsOnly_of_eq rfl rfl rfl)

theorem quiet_pollCancel (i : Nat) (target : Option Running) (s : System σ) :
    Quiet (.cancel i target) s (pollCancel B i target s) := by
  unfold pollCancel
  split
  · exact quiet_awaitCancel B i _ s
  · split
    · exact (quiet_awaitCancel B i _ _).after rfl rfl (slotsOnly_of_eq rfl rfl rfl)
    · exact quiet_ready (slotsOnly_of_eq rfl rfl rfl)

theorem quiet_awaitRows (i : Nat) (statement : Statement) (finish : Option Response → Reply)
    (running : Running) (s : System σ) :
    Quiet (.execute i statement finish (some running)) s
      (awaitRows B i statement finish running s) := by
  unfold awaitRows
  split
  · exact quiet_pending rfl rfl (slotsOnly_of_eq rfl rfl rfl)
  · exact quiet_ready (slotsOnly_of_put rfl rfl rfl rfl)
  · exact quiet_ready (slotsOnly_of_put rfl rfl rfl rfl)

theorem slotsOnly_startStatement (i : Nat) (statement : Statement) (s : System σ) :
    SlotsOnly s (startStatement B i statement s).2 := by
  unfold startStatement
  dsimp only
  split_ifs <;> exact slotsOnly_of_put rfl rfl rfl rfl

theorem quiet_pollExecute (i : Nat) (statement : Statement) (finish : Option Response → Reply)
    (running : Option Running) (s : System σ) :
    Quiet (.execute i statement finish running) s
      (pollExecute B i statement finish running s) := by
  cases running with
  | some running => exact quiet_awaitRows B i statement finish running s
  | none =>
    cases htext : statement.isEmpty with
    | true =>
      rw [pollExecute_of_isEmpty B i finish s htext]
      exact quiet_ready (slotsOnly_of_eq rfl rfl rfl)
    | false =>
      by_cases hidle : s.slotOf i = .idle
      · rw [pollExecute_of_idle B finish htext hidle]
        have hreserved : SlotsOnly s (s.reserved i) := slotsOnly_of_put rfl rfl rfl rfl
        exact (quiet_awaitRows B i statement finish _ _).after rfl rfl
          (hreserved.trans (slotsOnly_startStatement B i statement _))
      · rw [pollExecute_of_busy B finish htext hidle]
        exact quiet_ready (slotsOnly_of_eq rfl rfl rfl)

theorem quiet_endStream (i : Nat) (statement : Statement) (channel : Nat) (stage : StreamStage)
    (result : Except ClientError Unit) (s : System σ) :
    Quiet (.stream i statement channel stage) s (endStream i channel result s) :=
  quiet_ready (slotsOnly_of_put rfl rfl rfl rfl)

/-- However many deliveries a poll sends, no connection changes but in its slot. -/
theorem quiet_sendAll (i : Nat) (statement : Statement) (channel cursor : Nat)
    (stage : StreamStage) (room : Nat) (delivery : Delivery) (s : System σ) :
    Quiet (.stream i statement channel stage) s
      (sendAll B i statement channel cursor room delivery s) := by
  induction room generalizing delivery s with
  | zero =>
    unfold sendAll
    split_ifs
    · exact quiet_endStream i statement channel stage _ s
    · exact quiet_pending rfl rfl (slotsOnly_of_eq rfl rfl rfl)
  | succ room ih =>
    unfold sendAll
    split_ifs
    · exact quiet_endStream i statement channel stage _ s
    · dsimp only
      split
      · exact (quiet_endStream i statement channel stage _ _).after rfl rfl
          (slotsOnly_of_eq rfl rfl rfl)
      · split
        · exact quiet_pending rfl rfl (slotsOnly_of_eq rfl rfl rfl)
        · exact (quiet_endStream i statement channel stage _ _).after rfl rfl
            (slotsOnly_of_eq rfl rfl rfl)
        · exact (ih _ _).after rfl rfl (slotsOnly_of_eq rfl rfl rfl)

theorem quiet_flow (i : Nat) (statement : Statement) (channel cursor : Nat)
    (held : Option Delivery) (stage : StreamStage) (s : System σ) :
    Quiet (.stream i statement channel stage) s
      (flow B i statement channel cursor held s) := by
  unfold flow
  split
  · exact quiet_sendAll B i statement channel cursor stage _ _ s
  · split
    · exact quiet_pending rfl rfl (slotsOnly_of_eq rfl rfl rfl)
    · exact (quiet_endStream i statement channel stage _ _).after rfl rfl
        (slotsOnly_of_eq rfl rfl rfl)
    · exact (quiet_sendAll B i statement channel cursor stage _ _ _).after rfl rfl
        (slotsOnly_of_eq rfl rfl rfl)

theorem quiet_pollStream (i : Nat) (statement : Statement) (channel : Nat) (stage : StreamStage)
    (s : System σ) :
    Quiet (.stream i statement channel stage) s (pollStream B i statement channel stage s) := by
  cases stage with
  | flowing cursor held => exact quiet_flow B i statement channel cursor held _ s
  | fresh =>
    cases htext : statement.isEmpty with
    | true =>
      rw [pollStream_of_isEmpty B i channel s htext]
      exact quiet_ready (slotsOnly_of_eq rfl rfl rfl)
    | false =>
      by_cases hidle : s.slotOf i = .idle
      · rw [pollStream_of_idle B channel htext hidle]
        exact (quiet_flow B i statement channel s.cursorCount none _ _).after rfl rfl
          (slotsOnly_of_put rfl rfl rfl rfl)
      · rw [pollStream_of_busy B channel htext hidle]
        exact quiet_ready (slotsOnly_of_eq rfl rfl rfl)

/-! ## Any task -/

/-- A task that neither opens nor closes a session ends with no turn in the life of one. -/
theorem quiet_pollTask (task : Task) (s : System σ) :
    (∃ settings connection, task = .acquire settings connection) ∨
      (∃ i asked, task = .destroy i asked) ∨
      (∀ next result, task.turn? next result = none) ∧ Quiet task s (pollTask B task s) := by
  cases task with
  | acquire settings connection => exact .inl ⟨settings, connection, rfl⟩
  | destroy i asked => exact .inr (.inl ⟨i, asked, rfl⟩)
  | absent =>
    exact .inr (.inr ⟨fun _ _ => rfl, quiet_pending rfl rfl (slotsOnly_of_eq rfl rfl rfl)⟩)
  | validate i asked => exact .inr (.inr ⟨fun _ _ => rfl, quiet_pollValidate B i asked s⟩)
  | cancel i target => exact .inr (.inr ⟨fun _ _ => rfl, quiet_pollCancel B i target s⟩)
  | execute i statement finish running =>
    exact .inr (.inr ⟨fun _ _ => rfl, quiet_pollExecute B i statement finish running s⟩)
  | stream i statement channel stage =>
    exact .inr (.inr ⟨fun _ _ => rfl, quiet_pollStream B i statement channel stage s⟩)

theorem slotsOnly_dropTask (task : Task) (s : System σ) : SlotsOnly s (dropTask B task s) := by
  unfold dropTask
  split
  · exact slotsOnly_of_put rfl rfl rfl rfl
  · exact slotsOnly_of_put rfl rfl rfl rfl
  · exact slotsOnly_of_eq rfl rfl rfl
  · exact slotsOnly_of_eq rfl rfl rfl

end System

end SnowflakeSql
