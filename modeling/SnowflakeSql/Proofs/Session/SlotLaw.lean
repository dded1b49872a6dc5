import SnowflakeSql.Proofs.Session.Slot

/-!
# Slots and their holders

In every reachable state a slot that is not idle has exactly one holder, and it is what that
holder keeps there (`Agree`).  A poll or a drop changes what one task holds and the slots
together, and so keeps the agreement (`Agree.change`).  `SlotLaw` adds what makes it last: no
task waits under a number that is still to be given out, and no statement runs on a session that
is still to be created.
-/

namespace SnowflakeSql

namespace System

variable {σ : Type} {B : Backend σ}

/-- Slots and holders agree. -/
structure Agree (s : System σ) : Prop where
  held : ∀ n i slot, (s.tasks n).held? = some (i, slot) → s.slotOf i = slot
  unique : ∀ m n i slot slot', (s.tasks m).held? = some (i, slot) →
    (s.tasks n).held? = some (i, slot') → m = n
  holder : ∀ i, s.slotOf i ≠ .idle → ∃ n, (s.tasks n).held? = some (i, s.slotOf i)

/-- Slots and holders agree, and new tasks and new connections find their numbers unused. -/
structure SlotLaw (s : System σ) : Prop extends Agree s where
  unused : ∀ n, s.taskCount ≤ n → s.tasks n = .absent
  created : ∀ n w, (s.tasks n).statementOn? = some w → w.1 < s.sessionCount

theorem SlotLaw.slotOf_sessionCount {s : System σ} (law : SlotLaw s) :
    s.slotOf s.sessionCount = .idle := by
  by_contra hbusy
  obtain ⟨n, hn⟩ := law.holder _ hbusy
  obtain ⟨statement, hon⟩ := Task.statementOn?_of_held? hn
  exact absurd (law.created n _ hon) (Nat.lt_irrefl _)

/-! ## One task changes what it holds -/

theorem Agree.keep {s s' : System σ} (agree : Agree s) (hslot : ∀ j, s'.slotOf j = s.slotOf j)
    (hheld : ∀ m, (s'.tasks m).held? = (s.tasks m).held?) : Agree s' where
  held m i slot h := by
    rw [hslot]
    exact agree.held m i slot (hheld m ▸ h)
  unique m n i slot slot' hm hn := agree.unique m n i slot slot' (hheld m ▸ hm) (hheld n ▸ hn)
  holder i h := by
    rw [hslot] at h ⊢
    obtain ⟨m, hm⟩ := agree.holder i h
    exact ⟨m, (hheld m).trans hm⟩

theorem Agree.take {s s' : System σ} (agree : Agree s) {n i : Nat} {slot : Slot}
    (hbefore : (s.tasks n).held? = none) (hidle : s.slotOf i = .idle)
    (hslot : ∀ j, s'.slotOf j = if j = i then slot else s.slotOf j)
    (hheld : ∀ m, (s'.tasks m).held? = if m = n then some (i, slot) else (s.tasks m).held?) :
    Agree s' := by
  have hself : ∀ j slot', (s'.tasks n).held? = some (j, slot') → j = i ∧ slot' = slot := by
    intro j slot' h
    rw [hheld, if_pos rfl] at h
    cases h
    exact ⟨rfl, rfl⟩
  -- No other task holds the slot that is taken: it was idle.
  have hother : ∀ m j slot', m ≠ n → (s'.tasks m).held? = some (j, slot') →
      j ≠ i ∧ (s.tasks m).held? = some (j, slot') := by
    intro m j slot' hm h
    rw [hheld, if_neg hm] at h
    refine ⟨fun hj => ?_, h⟩
    have hslot' := agree.held m j slot' h
    rw [hj, hidle] at hslot'
    exact Task.slot_ne_idle_of_held? h hslot'.symm
  refine ⟨fun m j slot' h => ?_, fun m k j slot₁ slot₂ hm hk => ?_, fun j h => ?_⟩
  · rw [hslot]
    by_cases hm : m = n
    · subst hm
      obtain ⟨rfl, rfl⟩ := hself j slot' h
      exact if_pos rfl
    · obtain ⟨hj, hold⟩ := hother m j slot' hm h
      rw [if_neg hj]
      exact agree.held m j slot' hold
  · by_cases hmn : m = n <;> by_cases hkn : k = n
    · rw [hmn, hkn]
    · subst hmn
      exact absurd (hself j slot₁ hm).1 (hother k j slot₂ hkn hk).1
    · subst hkn
      exact absurd (hself j slot₂ hk).1 (hother m j slot₁ hmn hm).1
    · exact agree.unique m k j slot₁ slot₂ (hother m j slot₁ hmn hm).2 (hother k j slot₂ hkn hk).2
  · rw [hslot] at h ⊢
    split_ifs at h ⊢ with hj
    · exact ⟨n, by rw [hheld, if_pos rfl, hj]⟩
    · obtain ⟨m, hm⟩ := agree.holder j h
      have hmn : m ≠ n := by
        rintro rfl
        rw [hbefore] at hm
        cases hm
      exact ⟨m, by rw [hheld, if_neg hmn, hm]⟩

theorem Agree.free {s s' : System σ} (agree : Agree s) {n i : Nat} {slot : Slot}
    (hbefore : (s.tasks n).held? = some (i, slot))
    (hslot : ∀ j, s'.slotOf j = if j = i then .idle else s.slotOf j)
    (hheld : ∀ m, (s'.tasks m).held? = if m = n then none else (s.tasks m).held?) :
    Agree s' := by
  have hother : ∀ m j slot', (s'.tasks m).held? = some (j, slot') →
      j ≠ i ∧ (s.tasks m).held? = some (j, slot') := by
    intro m j slot' h
    rw [hheld] at h
    split_ifs at h with hm
    refine ⟨fun hj => hm ?_, h⟩
    exact agree.unique m n i slot' slot (hj ▸ h) hbefore
  refine ⟨fun m j slot' h => ?_, fun m k j slot₁ slot₂ hm hk => ?_, fun j h => ?_⟩
  · obtain ⟨hj, hold⟩ := hother m j slot' h
    rw [hslot, if_neg hj]
    exact agree.held m j slot' hold
  · exact agree.unique m k j slot₁ slot₂ (hother m j slot₁ hm).2 (hother k j slot₂ hk).2
  · rw [hslot] at h ⊢
    split_ifs at h ⊢ with hj
    · exact absurd rfl h
    · obtain ⟨m, hm⟩ := agree.holder j h
      have hmn : m ≠ n := by
        rintro rfl
        rw [hbefore] at hm
        cases hm
        exact hj rfl
      exact ⟨m, by rw [hheld, if_neg hmn, hm]⟩

theorem Agree.change {s s' : System σ} (agree : Agree s) {n : Nat} {after : Option (Nat × Slot)}
    (change : SlotChange s s' (s.tasks n).held? after)
    (hheld : ∀ m, (s'.tasks m).held? = if m = n then after else (s.tasks m).held?) :
    Agree s' := by
  generalize hbefore : (s.tasks n).held? = before at change
  cases change with
  | kept _ hslot =>
    refine agree.keep hslot fun m => ?_
    rw [hheld]
    split_ifs with hm
    · rw [hm, hbefore]
    · rfl
  | taken i slot hidle hslot => exact agree.take hbefore hidle hslot hheld
  | freed i slot hslot => exact agree.free hbefore hslot hheld

/-! ## Every happening keeps the law -/

/-- A task that is polled or given up keeps the law if the slots change with what it holds. -/
theorem SlotLaw.setTask {s s' : System σ} (law : SlotLaw s) {n : Nat} {task : Task}
    (change : SlotChange s s' (s.tasks n).held? task.held?) (frame : PollFrame s s')
    (habsent : s.tasks n = .absent → task = .absent)
    (hon : ∀ w, task.statementOn? = some w → (s.tasks n).statementOn? = some w) :
    SlotLaw (s'.setTask n task) := by
  have htask : ∀ m, (s'.setTask n task).tasks m = if m = n then task else s.tasks m := by
    intro m
    rw [← frame.tasks]
    rfl
  refine ⟨law.toAgree.change (change.setTask n task) fun m => ?_, fun m hm => ?_, fun m i hi => ?_⟩
  · rw [htask]
    split_ifs <;> rfl
  · rw [htask]
    have hcount : s.taskCount ≤ m := frame.taskCount ▸ hm
    split_ifs with h
    · exact habsent (h ▸ law.unused m hcount)
    · exact law.unused m hcount
  · refine Nat.lt_of_lt_of_le ?_ frame.sessionCount
    rw [htask] at hi
    split_ifs at hi with h
    · exact law.created n i (hon i hi)
    · exact law.created m i hi

theorem SlotLaw.poll {s : System σ} (law : SlotLaw s) (n : Nat) : SlotLaw (s.poll B n).2 := by
  have hpolled := polled_pollTask B (s.tasks n) law.slotOf_sessionCount
  rw [poll_snd]
  refine law.setTask hpolled.change hpolled.frame (fun habsent => ?_) hpolled.statementOn
  rw [habsent]
  rfl

theorem SlotLaw.drop {s : System σ} (law : SlotLaw s) (n : Nat) : SlotLaw (s.drop B n) :=
  law.setTask (slotChange_dropTask B (s.tasks n) s) (pollFrame_dropTask B (s.tasks n) s)
    (fun _ => rfl) fun _ h => nomatch h

theorem SlotLaw.begin {s : System σ} (law : SlotLaw s) {task : Task} (hfresh : task.IsFresh)
    (hon : ∀ w, task.statementOn? = some w → w.1 < s.sessionCount) : SlotLaw (s.begin task).2 := by
  have htask : ∀ m, (s.begin task).2.tasks m = if m = s.taskCount then task else s.tasks m :=
    fun _ => rfl
  have hunused : s.tasks s.taskCount = .absent := law.unused _ (Nat.le_refl _)
  refine ⟨law.toAgree.keep (fun _ => rfl) fun m => ?_, fun m hm => ?_, fun m i hi => ?_⟩
  · rw [htask]
    split_ifs with h
    · rw [hfresh.held?_eq_none, h, hunused]
      rfl
    · rfl
  · have hlt : s.taskCount < m := hm
    rw [htask, if_neg (by omega)]
    exact law.unused m (by omega)
  · rw [htask] at hi
    split_ifs at hi with h
    · exact hon i hi
    · exact law.created m i hi

/-- What neither slots nor tasks show keeps the law. -/
theorem SlotLaw.keep {s s' : System σ} (law : SlotLaw s) (hslot : ∀ j, s'.slotOf j = s.slotOf j)
    (htasks : s'.tasks = s.tasks) (hcount : s'.taskCount = s.taskCount)
    (hsession : s'.sessionCount = s.sessionCount) : SlotLaw s' where
  toAgree := law.toAgree.keep hslot fun _ => by rw [htasks]
  unused n h := by
    rw [htasks]
    exact law.unused n (hcount ▸ h)
  created n i h := by
    rw [hsession]
    exact law.created n i (htasks ▸ h)

theorem SlotLaw.act {s : System σ} (law : SlotLaw s) {a : Action σ} (ha : Allowed s a) :
    SlotLaw (System.act B s a) := by
  cases a with
  | begin task => exact law.begin ha.1 ha.2
  | openChannel capacity => exact law.keep (fun _ => rfl) rfl rfl rfl
  | poll n => exact law.poll n
  | drop n => exact law.drop n
  | receive channel => exact law.keep (fun _ => rfl) rfl rfl rfl
  | dropReceiver channel => exact law.keep (fun _ => rfl) rfl rfl rfl
  | reportError i e =>
    refine law.keep (slotOf_setConnection_of_slot_eq ?_) rfl rfl rfl
    unfold Connection.hear
    split_ifs <;> rfl
  | backend change => exact law.keep (fun _ => rfl) rfl rfl rfl

theorem slotLaw_start (b : σ) : SlotLaw ({ backend := b } : System σ) where
  held _ _ _ h := nomatch h
  unique _ _ _ _ _ h := nomatch h
  holder _ h := absurd rfl h
  unused _ _ := rfl
  created _ _ h := nomatch h

theorem slotLaw_of_reachable {s : System σ} (h : Reachable B s) : SlotLaw s :=
  h.invariant slotLaw_start fun _ _ ha law => law.act ha

end System

end SnowflakeSql
