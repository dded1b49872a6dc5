import SnowflakeSql.Proofs.Session.Quiet

/-!
# Connections show the lives of their sessions

Whatever happens, and in whatever order, every connection shows the life of its session
(`Chronicle.Law`): each happening is at most one turn of one life, and the connection changes with
it.  A session is opened by one task only, which then either hands its connection out or removes
its listener, and what uses a connection was given it; so no turn finds a connection that another
task is still opening.
-/

namespace SnowflakeSql

namespace Chronicle

open SnowflakeSql.System

variable {σ : Type} {B : Backend σ}

/-- Every connection shows the life of its session; a session is opened by at most one task, and
used by none before its connection is handed out. -/
structure Law (c : Chronicle σ) : Prop where
  unborn : ∀ i, c.system.sessionCount ≤ i → c.lives i = []
  shown : ∀ i, i < c.system.sessionCount → (c.lives i).Shows (c.system.connections i)
  opening : ∀ n i, (c.system.tasks n).opens? = some i → i < c.system.sessionCount ∧
    (c.lives i).isAcquired = false ∧ (c.lives i).isRefused = false
  alone : ∀ m n i, (c.system.tasks m).opens? = some i → (c.system.tasks n).opens? = some i → m = n
  given : ∀ n i, (c.system.tasks n).uses? = some i → (c.lives i).isAcquired = true

theorem Law.lt_sessionCount {c : Chronicle σ} (law : Law c) {i : Nat}
    (h : (c.lives i).isAcquired = true) : i < c.system.sessionCount := by
  by_contra hunborn
  rw [law.unborn i (Nat.le_of_not_lt hunborn)] at h
  cases h

/-! ## Happenings without and with a turn -/

/-- No session reaches a turn. -/
theorem Law.keep {c : Chronicle σ} (law : Law c) {s' : System σ}
    (hslots : ∀ i, i < c.system.sessionCount →
      (s'.connections i).release = (c.system.connections i).release)
    (hcount : s'.sessionCount = c.system.sessionCount)
    (hopens : ∀ n i, (s'.tasks n).opens? = some i → (c.system.tasks n).opens? = some i)
    (huses : ∀ n i, (s'.tasks n).uses? = some i → (c.lives i).isAcquired = true) :
    Law { system := s', lives := c.lives } where
  unborn i hi := law.unborn i (hcount ▸ hi)
  shown i hi := (law.shown i (hcount ▸ hi)).of_release_eq (hslots i (hcount ▸ hi))
  opening n i hn := by
    obtain ⟨hi, hopen⟩ := law.opening n i (hopens n i hn)
    exact ⟨hcount ▸ hi, hopen⟩
  alone m n i hm hn := law.alone m n i (hopens m i hm) (hopens n i hn)
  given := huses

/-- One session reaches a turn, and its connection shows it. -/
theorem Law.turn {c : Chronicle σ} (law : Law c) {s' : System σ} {i : Nat} {m : Milestone}
    (hi : i < c.system.sessionCount)
    (hothers : ∀ j, j ≠ i → s'.connections j = c.system.connections j)
    (hshown : Life.Shows (c.lives i ++ [m]) (s'.connections i))
    (hcount : s'.sessionCount = c.system.sessionCount)
    (hopens : ∀ n j, (s'.tasks n).opens? = some j → (c.system.tasks n).opens? = some j)
    (huses : ∀ n j, (s'.tasks n).uses? = some j → (c.system.tasks n).uses? = some j)
    (hopening : ∀ n, (s'.tasks n).opens? = some i → m.isAcquired = false ∧ m.isRefused = false) :
    Law { system := s', lives := noted c.lives (some (i, m)) } where
  unborn j hj := by
    have hcountj : c.system.sessionCount ≤ j := hcount ▸ hj
    have hji : j ≠ i := by
      rintro rfl
      exact absurd hi (Nat.not_lt.mpr hcountj)
    exact (Numbered.put_of_ne _ _ hji).trans (law.unborn j hcountj)
  shown j hj := by
    show Life.Shows (Numbered.put _ _ _ j) _
    by_cases hji : j = i
    · rw [hji, Numbered.put_self]
      exact hshown
    · rw [Numbered.put_of_ne _ _ hji, hothers j hji]
      exact law.shown j (hcount ▸ hj)
  opening n j hn := by
    obtain ⟨hj, hopen⟩ := law.opening n j (hopens n j hn)
    refine ⟨hcount ▸ hj, ?_⟩
    show Life.isAcquired (Numbered.put _ _ _ j) = false ∧
      Life.isRefused (Numbered.put _ _ _ j) = false
    by_cases hji : j = i
    · subst hji
      obtain ⟨ha, hr⟩ := hopening n hn
      rw [Numbered.put_self, Life.isAcquired_append, Life.isRefused_append, hopen.1, hopen.2]
      exact ⟨(Bool.or_false _).trans ha, (Bool.or_false _).trans hr⟩
    · rw [Numbered.put_of_ne _ _ hji]
      exact hopen
  alone k n j hk hn := law.alone k n j (hopens k j hk) (hopens n j hn)
  given n j hn := by
    have hacquired := law.given n j (huses n j hn)
    show Life.isAcquired (Numbered.put _ _ _ j) = true
    by_cases hji : j = i
    · rw [hji, Numbered.put_self, Life.isAcquired_append, ← hji, hacquired]
      rfl
    · rw [Numbered.put_of_ne _ _ hji]
      exact hacquired

/-! ## Polls -/

/-- What is so of what is left of a task may be looked up among all tasks. -/
theorem kept_put {f : Task → Option Nat} {tasks : Numbered Task} {n : Nat} {rest : Task}
    (h : ∀ i, f rest = some i → f (tasks n) = some i) (m i : Nat)
    (hm : f (tasks.put n rest m) = some i) : f (tasks m) = some i := by
  by_cases hmn : m = n
  · rw [hmn, Numbered.put_self] at hm
    exact hmn ▸ h i hm
  · rwa [Numbered.put_of_ne _ _ hmn] at hm

theorem tasks_setTask {s s' : System σ} (h : s'.tasks = s.tasks) (n : Nat) (task : Task) :
    (s'.setTask n task).tasks = s.tasks.put n task := by
  rw [← h]
  rfl

theorem act_poll (c : Chronicle σ) (n : Nat) :
    c.act B (.poll n) =
      { system := (pollTask B (c.system.tasks n) c.system).2.setTask n
          (pollTask B (c.system.tasks n) c.system).1.rest
        lives := noted c.lives ((c.system.tasks n).turn? c.system.sessionCount
          (pollTask B (c.system.tasks n) c.system).1.result?) } := by
  rw [← poll_fst, ← poll_snd]
  rfl

/-- A poll that leaves the connections as they are but for their slots. -/
theorem Law.quiet {c : Chronicle σ} (law : Law c) {n : Nat} {r : Step × System σ}
    (h : Quiet (c.system.tasks n) c.system r) :
    Law { system := r.2.setTask n r.1.rest, lives := c.lives } := by
  have htasks := tasks_setTask h.slots.tasks n r.1.rest
  refine law.keep (fun i _ => h.slots.release i) h.slots.sessionCount ?_ fun m i hm =>
    law.given m i ?_
  · rw [htasks]
    exact kept_put h.opens
  · rw [htasks] at hm
    exact kept_put h.uses m i hm

/-- One session reaches a turn by the end of a task. -/
theorem Law.finish {c : Chronicle σ} (law : Law c) {s' : System σ} {n i : Nat} {m : Milestone}
    (hi : i < c.system.sessionCount)
    (hothers : ∀ j, j ≠ i → s'.connections j = c.system.connections j)
    (hshown : Life.Shows (c.lives i ++ [m]) (s'.connections i))
    (hcount : s'.sessionCount = c.system.sessionCount) (htasks : s'.tasks = c.system.tasks)
    (hopening : ∀ k, k ≠ n → (c.system.tasks k).opens? = some i →
      m.isAcquired = false ∧ m.isRefused = false) :
    Law { system := s'.setTask n .absent, lives := noted c.lives (some (i, m)) } := by
  have hput := tasks_setTask htasks n .absent
  refine law.turn hi hothers hshown hcount ?_ ?_ fun k hk => ?_
  · rw [hput]
    exact kept_put fun _ h => nomatch h
  · rw [hput]
    exact kept_put fun _ h => nomatch h
  · rw [hput] at hk
    by_cases hkn : k = n
    · rw [hkn, Numbered.put_self] at hk
      cases hk
    · rw [Numbered.put_of_ne _ _ hkn] at hk
      exact hopening k hkn hk

/-! ## Opening a session -/

/-- The state in which a session was created and waits to be connected. -/
def opened (settings : Settings) (s : System σ) : System σ :=
  ((({ s with sessionCount := s.sessionCount + 1 }.setConnection s.sessionCount
    { listeners := 1 }).record s.sessionCount (.create settings)).record
      s.sessionCount .listen).record s.sessionCount .connect

/-- Creating a session could be a step of its own, before its driver is asked for the first
time. -/
def created (n : Nat) (settings : Settings) (c : Chronicle σ) : Chronicle σ where
  system := (opened settings c.system).setTask n (.acquire settings (some c.system.sessionCount))
  lives := c.lives

theorem awaitConnect_setTask (settings : Settings) (i n : Nat) (task : Task) (s : System σ) :
    awaitConnect B settings i (s.setTask n task) =
      ((awaitConnect B settings i s).1, (awaitConnect B settings i s).2.setTask n task) := by
  have hbackend : (s.setTask n task).backend = s.backend := rfl
  unfold awaitConnect
  rw [hbackend]
  cases B.connect i settings s.backend with
  | mk answer b => rcases answer with _ | _ | _ <;> rfl

theorem turn?_acquire (settings : Settings) (i : Nat)
    (result : Option (Except ClientError Reply)) :
    (Task.acquire settings none).turn? i result =
      (Task.acquire settings (some i)).turn? (i + 1) result := by
  rcases result with _ | error | reply
  · rfl
  · cases error <;> rfl
  · cases reply <;> rfl

theorem act_poll_created {c : Chronicle σ} {n : Nat} {settings : Settings}
    (htask : c.system.tasks n = .acquire settings none) :
    c.act B (.poll n) = (c.created n settings).act B (.poll n) := by
  have hpoll : pollTask B (.acquire settings none) c.system =
      awaitConnect B settings c.system.sessionCount (opened settings c.system) := rfl
  have hpoll' : pollTask B (.acquire settings (some c.system.sessionCount))
      (c.created n settings).system = _ :=
    awaitConnect_setTask settings c.system.sessionCount n _ (opened settings c.system)
  have hcreated : (c.created n settings).system.tasks n =
      .acquire settings (some c.system.sessionCount) := Numbered.put_self _ _ _
  rw [act_poll, act_poll, htask, hcreated, hpoll, hpoll', turn?_acquire]
  generalize awaitConnect B settings c.system.sessionCount (opened settings c.system) = r
  have hput (task : Task) : (r.2.setTask n task).setTask n r.1.rest = r.2.setTask n r.1.rest := by
    unfold setTask
    rw [Numbered.put_put]
  rw [hput]
  rfl

theorem Law.created {c : Chronicle σ} (law : Law c) {n : Nat} {settings : Settings}
    (htask : c.system.tasks n = .acquire settings none) : Law (c.created n settings) := by
  have hnew := law.unborn c.system.sessionCount (Nat.le_refl _)
  have htasks (m : Nat) : (c.created n settings).system.tasks m =
    if m = n then .acquire settings (some c.system.sessionCount) else c.system.tasks m := rfl
  have hconnections (i : Nat) : (c.created n settings).system.connections i =
    if i = c.system.sessionCount then { listeners := 1 } else c.system.connections i := rfl
  -- What opens a session after this opened it before, or it is the new one.
  have hopens (m i : Nat) (hm : ((c.created n settings).system.tasks m).opens? = some i) :
      (m = n ∧ i = c.system.sessionCount) ∨
        m ≠ n ∧ (c.system.tasks m).opens? = some i := by
    rw [htasks] at hm
    split_ifs at hm with hmn
    · exact .inl ⟨hmn, (Option.some.inj hm).symm⟩
    · exact .inr ⟨hmn, hm⟩
  refine ⟨fun i hi => law.unborn i (Nat.le_of_succ_le hi), fun i hi => ?_, fun m i hm => ?_,
    fun m k i hm hk => ?_, fun m i hm => ?_⟩
  · rw [hconnections]
    split_ifs with hnewest
    · show Life.Shows (c.lives i) _
      rw [hnewest, hnew]
      exact Life.shows_new
    · exact law.shown i (Nat.lt_of_le_of_ne (Nat.le_of_lt_succ hi) hnewest)
  · show _ ∧ (c.lives i).isAcquired = false ∧ (c.lives i).isRefused = false
    rcases hopens m i hm with ⟨-, rfl⟩ | ⟨-, hold⟩
    · rw [hnew]
      exact ⟨Nat.lt_succ_self _, rfl, rfl⟩
    · obtain ⟨hi, hopen⟩ := law.opening m i hold
      exact ⟨Nat.lt_succ_of_lt hi, hopen⟩
  · rcases hopens m i hm with ⟨rfl, rfl⟩ | ⟨hmn, hold⟩ <;>
      rcases hopens k _ hk with ⟨rfl, hi⟩ | ⟨hkn, hold'⟩
    · rfl
    · exact absurd (law.opening k _ hold').1 (Nat.lt_irrefl _)
    · rw [hi] at hold
      exact absurd (law.opening m _ hold).1 (Nat.lt_irrefl _)
    · exact law.alone m k i hold hold'
  · rw [htasks] at hm
    split_ifs at hm
    · cases hm
    · exact law.given m i hm

/-- A poll of the task that opens a session: it may be connected by it, or refused. -/
theorem Law.awaited {c : Chronicle σ} (law : Law c) {n i : Nat} {settings : Settings}
    (htask : c.system.tasks n = .acquire settings (some i)) : Law (c.act B (.poll n)) := by
  obtain ⟨hi, hacquired, hrefused⟩ := law.opening n i (by rw [htask]; rfl)
  have hpoll : pollTask B (.acquire settings (some i)) c.system =
      awaitConnect B settings i c.system := rfl
  -- No other task opens the session, so nothing opens it when this one is finished.
  have halone (k : Nat) (hkn : k ≠ n) : (c.system.tasks k).opens? ≠ some i := fun hk =>
    hkn (law.alone k n i hk (by rw [htask]; rfl))
  rw [act_poll, htask, hpoll]
  unfold awaitConnect
  split
  · next b _ =>
    have hquiet : Quiet (c.system.tasks n) c.system
        (.pending (.acquire settings (some i)), c.system.setBackend b) := by
      rw [htask]
      exact quiet_pending rfl rfl (slotsOnly_of_eq rfl rfl rfl)
    exact law.quiet hquiet
  · exact law.finish hi (fun _ _ => rfl) ((law.shown i hi).acquired hrefused) rfl rfl
      fun k hkn hk => absurd hk (halone k hkn)
  · next e b _ =>
    refine law.finish hi (fun j hj => ?_) (Life.Shows.refused hacquired e ?_) rfl rfl
      fun k hkn hk => absurd hk (halone k hkn)
    · exact Numbered.put_of_ne _ _ hj
    · exact congrArg Connection.listeners (Numbered.put_self _ _ _)

theorem Law.acquire {c : Chronicle σ} (law : Law c) {n : Nat} {settings : Settings}
    {connection : Option Nat} (htask : c.system.tasks n = .acquire settings connection) :
    Law (c.act B (.poll n)) := by
  cases connection with
  | some i => exact law.awaited htask
  | none =>
    rw [act_poll_created htask]
    exact (law.created htask).awaited (Numbered.put_self _ _ _)

/-! ## Closing a session -/

theorem Law.destroy {c : Chronicle σ} (law : Law c) {n i : Nat} {asked : Bool}
    (htask : c.system.tasks n = .destroy i asked) : Law (c.act B (.poll n)) := by
  have hi := law.lt_sessionCount (law.given n i (by rw [htask]; rfl))
  -- Telling the session to close, the first time, changes no connection.
  obtain ⟨s₁, hpoll, hconnections, hslots⟩ : ∃ s₁,
      pollTask B (.destroy i asked) c.system = awaitClose B i s₁ ∧
        s₁.connections = c.system.connections ∧ SlotsOnly c.system s₁ := by
    cases asked with
    | true => exact ⟨c.system, rfl, rfl, slotsOnly_of_eq rfl rfl rfl⟩
    | false => exact ⟨c.system.record i .close, rfl, rfl, slotsOnly_of_eq rfl rfl rfl⟩
  rw [act_poll, htask, hpoll]
  unfold awaitClose
  split
  · next b _ =>
    have hquiet : Quiet (c.system.tasks n) c.system
        (.pending (.destroy i true), s₁.setBackend b) := by
      rw [htask]
      exact quiet_pending rfl rfl (hslots.trans (slotsOnly_of_eq rfl rfl rfl))
    exact law.quiet hquiet
  · next outcome b _ =>
    have hothers (j : Nat) (hj : j ≠ i) :
        s₁.connections.put i ((s₁.connections i).close outcome) j = c.system.connections j := by
      rw [Numbered.put_of_ne _ _ hj, hconnections]
    have hclosed : Life.Shows (c.lives i ++ [.destroyed outcome])
        (s₁.connections.put i ((s₁.connections i).close outcome) i) := by
      rw [Numbered.put_self, hconnections]
      exact (law.shown i hi).close outcome
    cases outcome with
    | ok _ =>
      exact law.finish hi hothers hclosed hslots.sessionCount hslots.tasks fun _ _ _ => ⟨rfl, rfl⟩
    | error e =>
      exact law.finish hi hothers hclosed hslots.sessionCount hslots.tasks fun _ _ _ => ⟨rfl, rfl⟩

/-! ## Whatever happens -/

theorem Law.poll {c : Chronicle σ} (law : Law c) (n : Nat) : Law (c.act B (.poll n)) := by
  rcases quiet_pollTask B (c.system.tasks n) c.system with
    ⟨settings, connection, htask⟩ | ⟨i, asked, htask⟩ | ⟨hturn, hquiet⟩
  · exact law.acquire htask
  · exact law.destroy htask
  · rw [act_poll, hturn]
    exact law.quiet hquiet

theorem Law.drop {c : Chronicle σ} (law : Law c) (n : Nat) : Law (c.act B (.drop n)) := by
  have hslots := slotsOnly_dropTask B (c.system.tasks n) c.system
  have hquiet : Quiet (c.system.tasks n) c.system
      (.ready (.ok .done), dropTask B (c.system.tasks n) c.system) := quiet_ready hslots
  exact law.quiet hquiet

theorem Law.reportError {c : Chronicle σ} (law : Law c) (i : Nat) (e : DriverError) :
    Law (c.act B (.reportError i e)) := by
  have hothers (j : Nat) (hj : j ≠ i) :
      (c.system.reportError i e).connections j = c.system.connections j :=
    Numbered.put_of_ne _ _ hj
  by_cases hi : i < c.system.sessionCount
  · have hact : c.act B (.reportError i e) =
        { system := c.system.reportError i e
          lives := noted c.lives (some (i, .errored e)) } :=
      congrArg (Chronicle.mk _ <| noted c.lives ·) (if_pos hi)
    rw [hact]
    refine law.turn hi hothers ?_ rfl (fun _ _ h => h) (fun _ _ h => h) fun _ _ => ⟨rfl, rfl⟩
    have hheard := (law.shown i hi).hear e
    rwa [← Numbered.put_self c.system.connections i ((c.system.connections i).hear e)] at hheard
  · have hact : c.act B (.reportError i e) =
        { system := c.system.reportError i e, lives := c.lives } :=
      congrArg (Chronicle.mk _ <| noted c.lives ·) (if_neg hi)
    rw [hact]
    refine law.keep (fun j hj => ?_) rfl (fun _ _ h => h) law.given
    rw [hothers j fun hji => hi (hji ▸ hj)]

theorem opens?_of_isFresh {task : Task} (h : task.IsFresh) : task.opens? = none := by
  cases task with
  | acquire settings connection => exact h
  | absent | validate | destroy | cancel | execute | stream => rfl

theorem Law.begin {c : Chronicle σ} (law : Law c) {task : Task} (hfresh : task.IsFresh)
    (hgiven : ∀ i, task.uses? = some i → (c.lives i).isAcquired = true) :
    Law (c.act B (.begin task)) := by
  refine law.keep (fun _ _ => rfl) rfl (kept_put fun i hi => ?_) fun n i hn => ?_
  · rw [opens?_of_isFresh hfresh] at hi
    cases hi
  · have htask : (c.system.begin task).2.tasks n =
      if n = c.system.taskCount then task else c.system.tasks n := rfl
    have huses : ((c.system.begin task).2.tasks n).uses? = some i := hn
    rw [htask] at huses
    split_ifs at huses
    · exact hgiven i huses
    · exact law.given n i huses

theorem Law.act {c : Chronicle σ} (law : Law c) {a : Action σ} (ha : c.Allowed a) :
    Law (c.act B a) := by
  cases a with
  | begin task => exact law.begin ha.1 ha.2
  | poll n => exact law.poll n
  | drop n => exact law.drop n
  | reportError i e => exact law.reportError i e
  | openChannel capacity => exact law.keep (fun _ _ => rfl) rfl (fun _ _ h => h) law.given
  | receive channel => exact law.keep (fun _ _ => rfl) rfl (fun _ _ h => h) law.given
  | dropReceiver channel => exact law.keep (fun _ _ => rfl) rfl (fun _ _ h => h) law.given
  | backend change => exact law.keep (fun _ _ => rfl) rfl (fun _ _ h => h) law.given

theorem law_start (b : σ) : Law ({ system := { backend := b } } : Chronicle σ) where
  unborn _ _ := rfl
  shown _ hi := nomatch hi
  opening _ _ h := nomatch h
  alone _ _ _ h := nomatch h
  given _ _ h := nomatch h

theorem law_of_reachable {c : Chronicle σ} (h : Reachable B c) : Law c := by
  induction h with
  | start b => exact law_start b
  | act _ ha ih => exact ih.act ha

end Chronicle

end SnowflakeSql
