import SnowflakeSql.Proofs.Session.SlotLaw

/-!
# Who starts statements

A session is asked to start a statement by the first poll of a task with something to run
(`Task.wanting?`), and only if that poll finds the slot idle.  It then reserves the slot and goes
on from there (`pollReserved`, `pollTask_of_idle`).  `Asks s s' starts` says that the calls made
between two states ask exactly the sessions `starts` to start a statement, and `asks_act` counts
them for every happening.
-/

namespace SnowflakeSql

/-- The session is to start a statement. -/
def Call.starts : Call → Bool
  | .execute _ _ | .stream _ => true
  | _ => false

/-- The connection on which a task is still to start a statement with text. -/
def Task.wanting? : Task → Option Nat
  | .execute i statement _ none | .stream i statement _ .fresh =>
    if statement.isEmpty then none else some i
  | _ => none

namespace System

variable {σ : Type} (B : Backend σ)

/-- The connections whose sessions are to start statements, call by call. -/
def startsOf (events : List Event) : List Nat :=
  (events.filter fun event => event.call.starts).map Event.connection

theorem startsOf_append (events events' : List Event) :
    startsOf (events ++ events') = startsOf events ++ startsOf events' := by
  unfold startsOf
  rw [List.filter_append, List.map_append]

/-- The calls made between two states, and the sessions that they ask to start a statement. -/
def Asks (s s' : System σ) (starts : List Nat) : Prop :=
  ∃ calls, s'.events = s.events ++ calls ∧ startsOf calls = starts

theorem asks_of_eq {s s' : System σ} (h : s'.events = s.events) : Asks s s' [] :=
  ⟨[], by rw [h, List.append_nil], rfl⟩

theorem Asks.trans {s s₁ s₂ : System σ} {starts starts' : List Nat} (h₁ : Asks s s₁ starts)
    (h₂ : Asks s₁ s₂ starts') : Asks s s₂ (starts ++ starts') := by
  obtain ⟨calls, hcalls, rfl⟩ := h₁
  obtain ⟨calls', hcalls', rfl⟩ := h₂
  refine ⟨calls ++ calls', ?_, startsOf_append calls calls'⟩
  rw [hcalls', hcalls, List.append_assoc]

/-- Calls that start nothing may come first. -/
theorem Asks.after {s s₁ s₂ : System σ} {starts : List Nat} (h₂ : Asks s₁ s₂ starts)
    (h₁ : Asks s s₁ []) : Asks s s₂ starts := h₁.trans h₂

/-- Calls that start nothing may follow. -/
theorem Asks.then {s s₁ s₂ : System σ} {starts : List Nat} (h₁ : Asks s s₁ starts)
    (h₂ : Asks s₁ s₂ []) : Asks s s₂ starts := by
  have h := h₁.trans h₂
  rwa [List.append_nil] at h

theorem asks_record (s : System σ) (i : Nat) {call : Call} (h : call.starts = false) :
    Asks s (s.record i call) [] := by
  refine ⟨[⟨i, call⟩], rfl, ?_⟩
  simp [startsOf, h]

theorem asks_record_start (s : System σ) (i : Nat) {call : Call} (h : call.starts = true) :
    Asks s (s.record i call) [i] := by
  refine ⟨[⟨i, call⟩], rfl, ?_⟩
  simp [startsOf, h]

/-! ## Polls that start nothing -/

theorem asks_awaitConnect (settings : Settings) (i : Nat) (s : System σ) :
    Asks s (awaitConnect B settings i s).2 [] := by
  unfold awaitConnect
  split
  · exact asks_of_eq rfl
  · exact asks_of_eq rfl
  · exact asks_record s i rfl

theorem asks_pollAcquire (settings : Settings) (connection : Option Nat) (s : System σ) :
    Asks s (pollAcquire B settings connection s).2 [] := by
  cases connection with
  | some i => exact asks_awaitConnect B settings i s
  | none =>
    refine (asks_awaitConnect B settings s.sessionCount _).after ?_
    refine ⟨[⟨s.sessionCount, .create settings⟩, ⟨s.sessionCount, .listen⟩,
      ⟨s.sessionCount, .connect⟩], ?_, rfl⟩
    show ((s.events ++ [_]) ++ [_]) ++ [_] = _
    rw [List.append_assoc, List.append_assoc]
    rfl

theorem asks_awaitProbe (i : Nat) (s : System σ) : Asks s (awaitProbe B i s).2 [] := by
  unfold awaitProbe
  split <;> exact asks_of_eq rfl

theorem asks_pollValidate (i : Nat) (asked : Bool) (s : System σ) :
    Asks s (pollValidate B i asked s).2 [] := by
  unfold pollValidate
  split_ifs
  · exact asks_awaitProbe B i s
  · exact asks_of_eq rfl
  · exact (asks_awaitProbe B i _).after (asks_record s i rfl)

theorem asks_awaitClose (i : Nat) (s : System σ) : Asks s (awaitClose B i s).2 [] := by
  unfold awaitClose
  split
  · exact asks_of_eq rfl
  · exact asks_record s i rfl

theorem asks_pollDestroy (i : Nat) (asked : Bool) (s : System σ) :
    Asks s (pollDestroy B i asked s).2 [] := by
  unfold pollDestroy
  split_ifs
  · exact asks_awaitClose B i s
  · exact (asks_awaitClose B i _).after (asks_record s i rfl)

theorem asks_awaitCancel (i : Nat) (target : Running) (s : System σ) :
    Asks s (awaitCancel B i target s).2 [] := by
  unfold awaitCancel
  split <;> exact asks_of_eq rfl

theorem asks_pollCancel (i : Nat) (target : Option Running) (s : System σ) :
    Asks s (pollCancel B i target s).2 [] := by
  unfold pollCancel
  split
  · exact asks_awaitCancel B i _ s
  · split
    · exact (asks_awaitCancel B i _ _).after (asks_record s i rfl)
    · exact asks_of_eq rfl

theorem asks_awaitRows (i : Nat) (statement : Statement) (finish : Option Response → Reply)
    (running : Running) (s : System σ) :
    Asks s (awaitRows B i statement finish running s).2 [] := by
  unfold awaitRows
  split <;> exact asks_of_eq rfl

/-- Sending deliveries and taking more of them off the cursor starts nothing. -/
theorem asks_sendAll (i : Nat) (statement : Statement) (channel cursor room : Nat)
    (delivery : Delivery) (s : System σ) :
    Asks s (sendAll B i statement channel cursor room delivery s).2 [] := by
  induction room generalizing delivery s with
  | zero =>
    unfold sendAll
    split_ifs <;> exact asks_of_eq rfl
  | succ room ih =>
    unfold sendAll
    split_ifs
    · exact asks_of_eq rfl
    · dsimp only
      split
      · exact asks_of_eq rfl
      · split
        · exact asks_of_eq rfl
        · exact asks_of_eq rfl
        · exact (ih _ _).after (asks_of_eq rfl)

theorem asks_flow (i : Nat) (statement : Statement) (channel cursor : Nat)
    (held : Option Delivery) (s : System σ) :
    Asks s (flow B i statement channel cursor held s).2 [] := by
  unfold flow
  split
  · exact asks_sendAll B i statement channel cursor _ _ s
  · split
    · exact asks_of_eq rfl
    · exact asks_of_eq rfl
    · exact (asks_sendAll B i statement channel cursor _ _ _).after (asks_of_eq rfl)

/-! ## The poll that starts a statement -/

/-- A first poll, from when the slot is reserved on. -/
def pollReserved (task : Task) (s : System σ) : Step × System σ :=
  match task with
  | .execute i statement finish none =>
    let (running, s) := startStatement B i statement s
    awaitRows B i statement finish running s
  | .stream i statement channel .fresh =>
    flow B i statement channel s.cursorCount none (cursorOpened B i statement s)
  | _ => (.pending task, s)

theorem asks_startStatement (i : Nat) (statement : Statement) (s : System σ) :
    Asks s (startStatement B i statement s).2 [i] := by
  unfold startStatement
  dsimp only
  split_ifs
  · exact (asks_record_start s i rfl).then (asks_record _ i rfl)
  · exact asks_record_start s i rfl

theorem wanting?_eq_some {task : Task} {i : Nat} (h : task.wanting? = some i) :
    (∃ statement finish, statement.isEmpty = false ∧ task = .execute i statement finish none) ∨
      ∃ statement channel, statement.isEmpty = false ∧
        task = .stream i statement channel .fresh := by
  unfold Task.wanting? at h
  split at h
  · next j statement finish =>
    split_ifs at h with htext
    cases h
    exact .inl ⟨statement, finish, Bool.eq_false_iff.mpr htext, rfl⟩
  · next j statement channel =>
    split_ifs at h with htext
    cases h
    exact .inr ⟨statement, channel, Bool.eq_false_iff.mpr htext, rfl⟩
  · cases h

theorem isEmpty_of_wanting?_eq_none {statement : Statement} {i : Nat}
    (h : (if statement.isEmpty then none else some i) = none) : statement.isEmpty = true := by
  by_contra htext
  rw [if_neg htext] at h
  cases h

/-- A reserved slot leads to one call for a statement, on its own session. -/
theorem asks_pollReserved {task : Task} {i : Nat} (h : task.wanting? = some i) (s : System σ) :
    Asks s (pollReserved B task s).2 [i] := by
  rcases wanting?_eq_some h with ⟨statement, finish, _, rfl⟩ | ⟨statement, channel, _, rfl⟩
  · exact (asks_startStatement B i statement s).then (asks_awaitRows B i statement finish _ _)
  · have hopen : Asks s (cursorOpened B i statement s) [i] := asks_record_start s i rfl
    exact hopen.then (asks_flow B i statement channel _ _ _)

theorem pollTask_of_idle {task : Task} {i : Nat} {s : System σ} (h : task.wanting? = some i)
    (hidle : s.slotOf i = .idle) : pollTask B task s = pollReserved B task (s.reserved i) := by
  rcases wanting?_eq_some h with ⟨statement, finish, htext, rfl⟩ | ⟨statement, channel, htext, rfl⟩
  · exact pollExecute_of_idle B finish htext hidle
  · exact pollStream_of_idle B channel htext hidle

/-- The sessions that are asked to start a statement when a task is polled. -/
def startsOfPoll (task : Task) (s : System σ) : List Nat :=
  match task.wanting? with
  | some i => if s.slotOf i = .idle then [i] else []
  | none => []

theorem asks_pollTask (task : Task) (s : System σ) :
    Asks s (pollTask B task s).2 (startsOfPoll task s) := by
  unfold startsOfPoll
  split
  · next i hwant =>
    split_ifs with hidle
    · rw [pollTask_of_idle B hwant hidle]
      exact (asks_pollReserved B hwant _).after (asks_of_eq rfl)
    · rcases wanting?_eq_some hwant with ⟨statement, finish, htext, rfl⟩ |
        ⟨statement, channel, htext, rfl⟩
      · exact asks_of_eq (congrArg (·.2.events) (pollExecute_of_busy B finish htext hidle))
      · exact asks_of_eq (congrArg (·.2.events) (pollStream_of_busy B channel htext hidle))
  · next hwant =>
    cases task with
    | absent => exact asks_of_eq rfl
    | acquire settings connection => exact asks_pollAcquire B settings connection s
    | validate i asked => exact asks_pollValidate B i asked s
    | destroy i asked => exact asks_pollDestroy B i asked s
    | cancel i target => exact asks_pollCancel B i target s
    | execute i statement finish running =>
      cases running with
      | some running => exact asks_awaitRows B i statement finish running s
      | none =>
        have htext := isEmpty_of_wanting?_eq_none hwant
        exact asks_of_eq (congrArg (·.2.events) (pollExecute_of_isEmpty B i finish s htext))
    | stream i statement channel stage =>
      cases stage with
      | flowing cursor held => exact asks_flow B i statement channel cursor held s
      | fresh =>
        have htext := isEmpty_of_wanting?_eq_none hwant
        exact asks_of_eq (congrArg (·.2.events) (pollStream_of_isEmpty B i channel s htext))

theorem asks_dropTask (task : Task) (s : System σ) : Asks s (dropTask B task s) [] := by
  unfold dropTask
  split <;> exact asks_of_eq rfl

/-- The sessions that are asked to start a statement by a happening. -/
def startsOfAct (s : System σ) : Action σ → List Nat
  | .poll n => startsOfPoll (s.tasks n) s
  | _ => []

/-- Only the first poll of a task that finds its slot idle starts a statement, and it does. -/
theorem asks_act (s : System σ) (a : Action σ) : Asks s (act B s a) (startsOfAct s a) := by
  cases a with
  | poll n =>
    show Asks s (s.poll B n).2 (startsOfPoll (s.tasks n) s)
    rw [poll_snd]
    exact asks_pollTask B (s.tasks n) s
  | drop n => exact asks_dropTask B (s.tasks n) s
  | reportError i e => exact asks_of_eq rfl
  | begin task => exact asks_of_eq rfl
  | openChannel capacity => exact asks_of_eq rfl
  | receive channel => exact asks_of_eq rfl
  | dropReceiver channel => exact asks_of_eq rfl
  | backend change => exact asks_of_eq rfl

end System

end SnowflakeSql
