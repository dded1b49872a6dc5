import SnowflakeSql.Proofs.Session.Executions
import SnowflakeSql.Session.Rehearsal

/-!
# What is stopped

A task that stops what a connection runs aims at one statement, the one that it finds in the slot
when it is first polled (`Aim`).  The driver may take its time to answer; by then that statement
may be over and another one run in its place, which is not touched.  `aimed_of_reachable` says so
of every run, with the calls that the task makes in it (`Traced`).  The connection does not change
by it: the statement stays in the slot until its own task is finished or given up.
-/

namespace SnowflakeSql

theorem Connection.running?_eq_some_iff (c : Connection) (running : Running) :
    c.running? = some running ↔ c.slot = .running running := by
  unfold running?
  split <;> simp_all

namespace System

variable {σ : Type}

/-- The calls that a happening makes if it is one of the task. -/
def callsOf (B : Backend σ) (n : Nat) (s : System σ) (a : Action σ) : List Event :=
  if a.isOf n then (act B s a).events.drop s.events.length else []

/-- Some sequence of happenings leads from the first state to the second, and the task makes the
calls in it. -/
inductive Traced (B : Backend σ) (n : Nat) (s : System σ) : List Event → System σ → Prop where
  | refl : Traced B n s [] s
  | act {s' : System σ} {calls : List Event} {a : Action σ} : Traced B n s calls s' →
      Allowed s' a → Traced B n s (calls ++ callsOf B n s' a) (act B s' a)

/-- How far stopping has come, with the calls that it has made: it has not looked at the
connection yet, or it has aimed at what it found running, or it is over without a call. -/
inductive Aim (B : Backend σ) (n i : Nat) (s : System σ) : List Event → System σ → Prop where
  | fresh {s' : System σ} : s'.tasks n = .cancel i none → Aim B n i s [] s'
  | told {s₁ s' : System σ} {target : Running} : Traced B n s [] s₁ →
      s₁.tasks n = .cancel i none → s₁.slotOf i = .running target →
      Traced B n (s₁.poll B n).2 [] s' →
      s'.tasks n = .absent ∨ s'.tasks n = .cancel i (some target) →
      Aim B n i s [⟨i, .cancel target⟩] s'
  | ended {s' : System σ} : s'.tasks n = .absent → Aim B n i s [] s'

/-- The task aims at the statement when it is polled. -/
def AimsAt (s : System σ) (n i : Nat) (target : Running) : Prop :=
  s.tasks n = .cancel i none ∧ s.slotOf i = .running target ∨ s.tasks n = .cancel i (some target)

/-- What the driver's answer is returned as. -/
def stopResult : Except DriverError Unit → Except ClientError Reply
  | .ok _ => .ok .done
  | .error e => .error (.cancel e)

/-- Stopping what a connection runs, whatever happens from the state on. -/
structure Aimed (B : Backend σ) (s : System σ) (n i : Nat) : Prop where
  /-- At most one call is made: by the first poll, for what it finds running. -/
  course : ∀ calls s', Traced B n s calls s' → Aim B n i s calls s'
  /-- If something runs at the first poll, that poll makes the call. -/
  tells : ∀ s' target, Later B s s' → s'.tasks n = .cancel i none →
    s'.slotOf i = .running target → callsOf B n s' (.poll n) = [⟨i, .cancel target⟩]
  /-- Where nothing is running the first poll is the last one and does nothing. -/
  nothing : ∀ s', Later B s s' → s'.tasks n = .cancel i none →
    (∀ target, s'.slotOf i ≠ .running target) →
      s'.poll B n = (some (.ok .done), s'.setTask n .absent)
  /-- Each poll hears from the driver of the one statement, and returns the answer. -/
  answer : ∀ s' target, Later B s s' → s'.AimsAt n i target →
    (s'.poll B n).1 = (B.cancel target.execution s'.backend).1.map stopResult ∧
      (s'.poll B n).2.backend = (B.cancel target.execution s'.backend).2
  /-- No other statement has the number of the one that was found, then or later. -/
  alone : ∀ s₁ s' target running j, Later B s s₁ → s₁.slotOf i = .running target →
    Later B s₁ s' → s'.slotOf j = .running running →
      running.execution = target.execution → j = i ∧ running = target
  /-- No connection changes, in its slot or otherwise. -/
  harmless : ∀ s', Later B s s' → (s'.poll B n).2.connections = s'.connections ∧
    (s'.drop B n).connections = s'.connections
  /-- What is found stays in the slot until its own task is finished or given up. -/
  attached : ∀ s₁ target, Later B s s₁ → s₁.slotOf i = .running target →
    ∃ m statement finish, s₁.tasks m = .execute i statement finish (some target) ∧
      ∀ s', Later B s₁ s' → s'.tasks m = .absent ∨
        s'.tasks m = .execute i statement finish (some target) ∧ s'.slotOf i = .running target

variable {B : Backend σ} {n i : Nat}

/-! ## One poll -/

theorem events_awaitCancel (target : Running) (s : System σ) :
    (awaitCancel B i target s).2.events = s.events := by
  unfold awaitCancel
  split <;> rfl

theorem connections_awaitCancel (target : Running) (s : System σ) :
    (awaitCancel B i target s).2.connections = s.connections := by
  unfold awaitCancel
  split <;> rfl

theorem rest_awaitCancel_cases (target : Running) (s : System σ) :
    (awaitCancel B i target s).1.rest = .absent ∨
      (awaitCancel B i target s).1.rest = .cancel i (some target) := by
  unfold awaitCancel
  split
  · exact .inr rfl
  · exact .inl rfl
  · exact .inl rfl

theorem answer_awaitCancel (target : Running) (s : System σ) :
    (awaitCancel B i target s).1.result? =
        (B.cancel target.execution s.backend).1.map stopResult ∧
      (awaitCancel B i target s).2.backend = (B.cancel target.execution s.backend).2 := by
  unfold awaitCancel
  split <;>
  · next h =>
    rw [h]
    exact ⟨rfl, rfl⟩

/-- A poll that asks the driver how the stopping goes. -/
theorem poll_of_awaitCancel {s s₀ : System σ} {target : Running}
    (h : pollTask B (s.tasks n) s = awaitCancel B i target s₀) :
    ((s.poll B n).2.tasks n = .absent ∨ (s.poll B n).2.tasks n = .cancel i (some target)) ∧
      (s.poll B n).2.events = s₀.events ∧
      (s.poll B n).1 = (B.cancel target.execution s₀.backend).1.map stopResult ∧
      (s.poll B n).2.backend = (B.cancel target.execution s₀.backend).2 := by
  rw [tasks_poll_self, poll_fst, poll_snd, h]
  exact ⟨rest_awaitCancel_cases target s₀, events_awaitCancel target s₀,
    answer_awaitCancel target s₀⟩

/-- The first poll, if it finds a statement running. -/
theorem pollTask_of_running {s : System σ} {target : Running} (htask : s.tasks n = .cancel i none)
    (hslot : s.slotOf i = .running target) :
    pollTask B (s.tasks n) s = awaitCancel B i target (s.record i (.cancel target)) := by
  have hrunning := (Connection.running?_eq_some_iff (s.connections i) target).mpr hslot
  rw [htask]
  unfold pollTask pollCancel
  simp only [hrunning]

/-- A poll while the driver takes its time. -/
theorem pollTask_of_told {s : System σ} {target : Running}
    (htask : s.tasks n = .cancel i (some target)) :
    pollTask B (s.tasks n) s = awaitCancel B i target s := by
  rw [htask]
  rfl

/-- The first poll, if it finds none running. -/
theorem poll_of_not_running {s : System σ} (htask : s.tasks n = .cancel i none)
    (hslot : ∀ target, s.slotOf i ≠ .running target) :
    s.poll B n = (some (.ok .done), s.setTask n .absent) := by
  have hrunning : (s.connections i).running? = none := by
    rw [Option.eq_none_iff_forall_ne_some]
    intro target htarget
    exact hslot target ((Connection.running?_eq_some_iff _ target).mp htarget)
  unfold poll
  rw [htask]
  unfold pollTask pollCancel
  simp only [hrunning]

theorem poll_of_absent {s : System σ} (htask : s.tasks n = .absent) :
    (s.poll B n).2.tasks n = .absent ∧ (s.poll B n).2.events = s.events := by
  rw [tasks_poll_self, poll_snd, htask]
  exact ⟨rfl, rfl⟩

theorem answer_of_aimsAt {s : System σ} {target : Running} (h : s.AimsAt n i target) :
    (s.poll B n).1 = (B.cancel target.execution s.backend).1.map stopResult ∧
      (s.poll B n).2.backend = (B.cancel target.execution s.backend).2 := by
  rcases h with ⟨htask, hslot⟩ | htask
  · exact (poll_of_awaitCancel (pollTask_of_running htask hslot)).2.2
  · exact (poll_of_awaitCancel (pollTask_of_told htask)).2.2

/-- The task stops what the connection runs, or is over. -/
def StopsOrOver (s : System σ) (n i : Nat) : Prop :=
  s.tasks n = .absent ∨ ∃ target, s.tasks n = .cancel i target

theorem connections_pollCancel (target : Option Running) (s : System σ) :
    (pollCancel B i target s).2.connections = s.connections := by
  unfold pollCancel
  split
  · exact connections_awaitCancel _ s
  · split
    · exact connections_awaitCancel _ _
    · rfl

theorem harmless_of_stopsOrOver {s : System σ} (h : s.StopsOrOver n i) :
    (s.poll B n).2.connections = s.connections ∧ (s.drop B n).connections = s.connections := by
  rw [poll_snd]
  unfold drop
  rcases h with htask | ⟨target, htask⟩
  · rw [htask]
    exact ⟨rfl, rfl⟩
  · rw [htask]
    exact ⟨connections_pollCancel target s, rfl⟩

/-! ## A whole run -/

theorem callsOf_eq_nil {s : System σ} {a : Action σ} (h : a.isOf n = false) :
    callsOf B n s a = [] := by
  unfold callsOf
  rw [h]
  rfl

theorem callsOf_poll {s : System σ} {calls : List Event}
    (h : (s.poll B n).2.events = s.events ++ calls) : callsOf B n s (.poll n) = calls := by
  have hof : (Action.poll n : Action σ).isOf n = true := decide_eq_true rfl
  unfold callsOf
  rw [if_pos hof]
  show (s.poll B n).2.events.drop s.events.length = calls
  rw [h]
  exact List.drop_left

theorem callsOf_drop {s : System σ} (h : s.StopsOrOver n i) : callsOf B n s (.drop n) = [] := by
  have hevents : (s.drop B n).events = s.events := by
    unfold drop
    rcases h with htask | ⟨target, htask⟩ <;>
    · rw [htask]
      rfl
  unfold callsOf
  split_ifs
  · show (s.drop B n).events.drop s.events.length = []
    rw [hevents]
    exact List.drop_length
  · rfl

theorem Traced.later {s s' : System σ} {calls : List Event} (h : Traced B n s calls s') :
    Later B s s' := by
  induction h with
  | refl => exact .refl
  | act _ ha ih => exact ih.act ha

theorem exists_traced_of_later {s s' : System σ} (h : Later B s s') :
    ∃ calls, Traced B n s calls s' := by
  induction h with
  | refl => exact ⟨[], .refl⟩
  | act _ ha ih =>
    obtain ⟨calls, hcalls⟩ := ih
    exact ⟨_, hcalls.act ha⟩

/-- A happening without a call of the task. -/
theorem Traced.silent {s s' : System σ} {a : Action σ} (h : Traced B n s [] s')
    (ha : Allowed s' a) (hnone : callsOf B n s' a = []) :
    Traced B n s [] (System.act B s' a) := by
  have hact := h.act ha
  rwa [hnone] at hact

theorem Aim.stopsOrOver {s s' : System σ} {calls : List Event} (h : Aim B n i s calls s') :
    s'.StopsOrOver n i := by
  cases h with
  | fresh htask => exact .inr ⟨none, htask⟩
  | told _ _ _ _ htask => exact htask.imp_right fun h => ⟨_, h⟩
  | ended htask => exact .inl htask

/-- The first poll aims, and those that follow make no call. -/
theorem Aim.poll {s s' : System σ} {calls : List Event} (h : Aim B n i s calls s')
    (htraced : Traced B n s calls s') :
    Aim B n i s (calls ++ callsOf B n s' (.poll n)) (s'.poll B n).2 := by
  cases h with
  | fresh htask =>
    by_cases hslot : ∃ target, s'.slotOf i = .running target
    · obtain ⟨target, hslot⟩ := hslot
      obtain ⟨hrest, hevents, -⟩ :=
        poll_of_awaitCancel (pollTask_of_running (B := B) htask hslot)
      rw [callsOf_poll hevents]
      exact .told htraced htask hslot .refl hrest
    · have hpoll := poll_of_not_running (B := B) htask fun target htarget =>
        hslot ⟨target, htarget⟩
      have hnone : callsOf B n s' (.poll n) = [] := by
        refine callsOf_poll ?_
        rw [hpoll, List.append_nil]
        rfl
      rw [hnone, hpoll]
      exact .ended (Numbered.put_self _ _ _)
  | @told s₁ _ target hbefore htask₁ hslot₁ hafter htask =>
    have hpoll : ((s'.poll B n).2.tasks n = .absent ∨
        (s'.poll B n).2.tasks n = .cancel i (some target)) ∧
          (s'.poll B n).2.events = s'.events := by
      rcases htask with htask | htask
      · exact (poll_of_absent htask).imp_left .inl
      · obtain ⟨hrest, hevents, -⟩ := poll_of_awaitCancel (pollTask_of_told (B := B) htask)
        exact ⟨hrest, hevents⟩
    have hnone : callsOf B n s' (.poll n) = [] :=
      callsOf_poll (hpoll.2.trans (List.append_nil _).symm)
    have hsilent : Traced B n (s₁.poll B n).2 [] (s'.poll B n).2 :=
      hafter.silent (a := .poll n) trivial hnone
    rw [hnone]
    exact .told hbefore htask₁ hslot₁ hsilent hpoll.1
  | ended htask =>
    obtain ⟨habsent, hevents⟩ := poll_of_absent (B := B) htask
    rw [callsOf_poll (hevents.trans (List.append_nil _).symm)]
    exact .ended habsent

theorem Aim.drop {s s' : System σ} {calls : List Event} (h : Aim B n i s calls s') :
    Aim B n i s (calls ++ callsOf B n s' (.drop n)) (s'.drop B n) := by
  have hnone := callsOf_drop (B := B) h.stopsOrOver
  have habsent : (s'.drop B n).tasks n = .absent := Numbered.put_self _ _ _
  rw [hnone, List.append_nil]
  cases h with
  | fresh htask => exact .ended habsent
  | told hbefore htask₁ hslot₁ hafter htask =>
    exact .told hbefore htask₁ hslot₁ (hafter.silent (a := .drop n) trivial hnone) (.inl habsent)
  | ended htask => exact .ended habsent

theorem Aim.act {s s' : System σ} {calls : List Event} (h : Aim B n i s calls s')
    (htraced : Traced B n s calls s') (law : SlotLaw s') (hn : n < s'.taskCount) {a : Action σ}
    (ha : Allowed s' a) : Aim B n i s (calls ++ callsOf B n s' a) (System.act B s' a) := by
  by_cases hof : a.isOf n = true
  · cases a with
    | poll m =>
      obtain rfl : m = n := of_decide_eq_true hof
      exact h.poll htraced
    | drop m =>
      obtain rfl : m = n := of_decide_eq_true hof
      exact h.drop
    | _ => cases hof
  · have hother := Bool.eq_false_iff.mpr hof
    have hnone := callsOf_eq_nil (B := B) (s := s') hother
    have hsame := tasks_act_of_not_isOf (B := B) law hn hother
    rw [hnone, List.append_nil]
    cases h with
    | fresh htask => exact .fresh (hsame.trans htask)
    | told hbefore htask₁ hslot₁ hafter htask =>
      exact .told hbefore htask₁ hslot₁ (hafter.silent ha hnone) (hsame ▸ htask)
    | ended htask => exact .ended (hsame.trans htask)

theorem aim_of_traced {s s' : System σ} {calls : List Event} (hs : Reachable B s)
    (htask : s.tasks n = .cancel i none) (h : Traced B n s calls s') :
    Aim B n i s calls s' ∧ n < s'.taskCount := by
  induction h with
  | refl =>
    exact ⟨.fresh htask, (slotLaw_of_reachable hs).lt_taskCount (by rw [htask]; exact nofun)⟩
  | act htraced ha ih =>
    have law := slotLaw_of_reachable (htraced.later.reachable hs)
    exact ⟨ih.1.act htraced law ih.2 ha, (tasks_act law ih.2 _).1⟩

/-- Whatever happens, a statement stays in its slot until its task is finished or given up. -/
theorem attached_of_later {s s' : System σ} (hs : Reachable B s) (hlater : Later B s s') {m : Nat}
    {statement : Statement} {finish : Option Response → Reply} {target : Running}
    (htask : s.tasks m = .execute i statement finish (some target)) :
    s'.tasks m = .absent ∨
      s'.tasks m = .execute i statement finish (some target) ∧ s'.slotOf i = .running target := by
  have hm : m < s.taskCount :=
    (slotLaw_of_reachable hs).lt_taskCount (by rw [htask]; exact nofun)
  have hboth : (s'.tasks m = .absent ∨
      s'.tasks m = .execute i statement finish (some target)) ∧ m < s'.taskCount := by
    induction hlater with
    | refl => exact ⟨.inr htask, hm⟩
    | @act s₁ a hlater ha ih =>
      have law := slotLaw_of_reachable (hlater.reachable hs)
      obtain ⟨hcount, hsame | habsent | ⟨-, hpolled⟩⟩ := tasks_act (B := B) law ih.2 a
      · exact ⟨hsame ▸ ih.1, hcount⟩
      · exact ⟨.inl habsent, hcount⟩
      · refine ⟨?_, hcount⟩
        rw [hpolled]
        rcases ih.1 with htask₁ | htask₁
        · rw [htask₁]
          exact .inl rfl
        · rw [htask₁]
          exact rest_awaitRows_cases target s₁
  refine hboth.1.imp_right fun h => ⟨h, ?_⟩
  exact (slotLaw_of_reachable (hlater.reachable hs)).held m i _ (by rw [h]; rfl)

/-- Whatever happens, stopping hits only the statement that it finds at its first poll. -/
theorem aimed_of_reachable {s : System σ} (hs : Reachable B s)
    (htask : s.tasks n = .cancel i none) : Aimed B s n i where
  course _ _ h := (aim_of_traced hs htask h).1
  tells _ _ _ htask' hslot :=
    callsOf_poll (poll_of_awaitCancel (pollTask_of_running htask' hslot)).2.1
  nothing _ _ htask' hslot := poll_of_not_running htask' hslot
  answer _ _ _ h := answer_of_aimsAt h
  alone _ _ _ _ _ h₁ hslot h₂ hslot' he := eq_of_execution_eq (h₁.reachable hs) h₂ hslot hslot' he
  harmless _ hlater := by
    obtain ⟨calls, htraced⟩ := exists_traced_of_later hlater
    exact harmless_of_stopsOrOver (aim_of_traced hs htask htraced).1.stopsOrOver
  attached _ _ h₁ hslot := by
    have hs₁ := h₁.reachable hs
    obtain ⟨m, statement, finish, hm⟩ := (slotLaw_of_reachable hs₁).exists_execute hslot
    exact ⟨m, statement, finish, hm, fun s' h₂ => attached_of_later hs₁ h₂ hm⟩

/-! ## Another statement by then -/

/-- The rehearsed driver, but with no answer to who stops a statement while it is to hold the next
one. -/
def slowCancel : Backend Rehearsal :=
  { Rehearsal.backend with
    cancel := fun execution r => if r.holdsNext then (none, r) else r.cancel execution }

/-- A statement runs, which the driver holds, and a task is to stop it. -/
def toStop : System Rehearsal :=
  run slowCancel { backend := { holdsNext := true } }
    [.begin (.acquire {} none), .poll 0, .begin selectOne, .poll 1, .begin (.cancel 0 none)]

/-- The driver was told and takes its time, the statement ends, and another one starts. -/
def successorRuns : System Rehearsal :=
  run slowCancel toStop
    [.backend fun r => { r with holdsNext := true }, .poll 2, .backend fun r => (r.finish "q0").2,
      .poll 1, .begin selectOne, .poll 3]

/-- The successor goes on when the driver answers. -/
theorem aimed_toStop :
    Reachable slowCancel toStop ∧ toStop.tasks 2 = .cancel 0 none ∧
      Aimed slowCancel toStop 2 0 ∧
      (successorRuns.events.drop toStop.events.length).map Event.call =
        [.cancel ⟨0, ⟨"q0", "select 1"⟩⟩,
          .execute ⟨1, ⟨"q1", "select 1"⟩⟩ (.buffered (.ofSql "select 1"))] ∧
      (successorRuns.poll slowCancel 2).1 = some (.ok .done) ∧
      (successorRuns.poll slowCancel 2).2.slotOf 0 = .running ⟨1, ⟨"q1", "select 1"⟩⟩ := by
  have hreach : Reachable slowCancel toStop := by
    have hacquired := ((Reachable.start (B := slowCancel) { holdsNext := true }).act
      (a := .begin (.acquire {} none)) ⟨rfl, fun _ h => nomatch h⟩).poll 0
    have hrunning := (hacquired.act (a := .begin selectOne)
      ⟨rfl, fun w h => by cases h; decide⟩).poll 1
    exact hrunning.act (a := .begin (.cancel 0 none)) ⟨rfl, fun _ h => nomatch h⟩
  exact ⟨hreach, rfl, aimed_of_reachable hreach rfl, rfl, rfl, rfl⟩

end System

end SnowflakeSql
