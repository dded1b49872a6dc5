import SnowflakeSql.Proofs.Session.OneStatement
import SnowflakeSql.Proofs.Session.Runs

/-!
# The numbers of statements

A buffered statement gets its number when it is started, and no number is given out twice
(`Numbering`).  So a task that waits for a statement with a number of before has waited for it
ever since (`tasks_of_later`), and whatever happens, a number leads to one statement on one
connection only (`eq_of_execution_eq`).
-/

namespace SnowflakeSql

/-- The number of the buffered statement that a task waits for. -/
def Task.execution? : Task → Option Nat
  | .execute _ _ _ (some running) => some running.execution
  | _ => none

theorem Task.exists_of_execution? {task : Task} {e : Nat} (h : task.execution? = some e) :
    ∃ i statement finish running, task = .execute i statement finish (some running) ∧
      running.execution = e := by
  unfold execution? at h
  split at h
  · exact ⟨_, _, _, _, rfl, Option.some.inj h⟩
  · cases h

namespace System

variable {σ : Type} {B : Backend σ}

/-- No two tasks wait for statements with the same number, and each number was given out. -/
structure Numbering (s : System σ) : Prop where
  below : ∀ n e, (s.tasks n).execution? = some e → e < s.executionCount
  apart : ∀ m n e, (s.tasks m).execution? = some e → (s.tasks n).execution? = some e → m = n

/-! ## Giving out numbers -/

theorem executionCount_startStatement (i : Nat) (statement : Statement) (s : System σ) :
    (startStatement B i statement s).2.executionCount = s.executionCount + 1 := by
  unfold startStatement
  dsimp only
  split_ifs <;> rfl

theorem le_executionCount_of_later {s s' : System σ} (hs : Reachable B s) (h : Later B s s') :
    s.executionCount ≤ s'.executionCount := by
  induction h with
  | refl => exact Nat.le_refl _
  | act hlater _ ih =>
    have law := slotLaw_of_reachable (hlater.reachable hs)
    exact Nat.le_trans ih (actFrame_act law _).executionCount

/-! ## No number is given out twice -/

/-- After a happening a task with a number is as it was, or it was polled and has a new one. -/
theorem execution?_act {s : System σ} (law : SlotLaw s) {a : Action σ} (ha : Allowed s a)
    {n e : Nat} (h : ((System.act B s a).tasks n).execution? = some e) :
    (System.act B s a).tasks n = s.tasks n ∨
      a = .poll n ∧ e = s.executionCount ∧
        s.executionCount < (System.act B s a).executionCount := by
  obtain ⟨i, statement, finish, running, htask, rfl⟩ := Task.exists_of_execution? h
  rcases tasks_act_cases law.slotOf_sessionCount ha htask with hold | ⟨rfl, hrest⟩
  · exact .inl (htask.trans hold.symm)
  · rcases rest_pollTask_cases law.slotOf_sessionCount hrest with hold | ⟨hstart, hpoll⟩
    · exact .inl (htask.trans hold.symm)
    · refine .inr ⟨rfl, ?_, ?_⟩
      · rw [← hstart]
        rfl
      · show _ < (s.poll B n).2.executionCount
        rw [poll_snd, hpoll]
        -- The number is given out by the start, and waiting for the rows takes none back.
        have hstarted := executionCount_startStatement (B := B) i statement (s.reserved i)
        have hawaited := (polled_awaitRows B i statement finish running
          (startStatement B i statement (s.reserved i)).2).frame.executionCount
        exact Nat.lt_of_lt_of_le (hstarted ▸ Nat.lt_succ_self _) hawaited

theorem Numbering.act {s : System σ} (numbering : Numbering s) (law : SlotLaw s) {a : Action σ}
    (ha : Allowed s a) : Numbering (System.act B s a) := by
  have hle := (actFrame_act (B := B) law a).executionCount
  refine ⟨fun n e h => ?_, fun m n e hm hn => ?_⟩
  · rcases execution?_act law ha h with hold | ⟨-, rfl, hlt⟩
    · have hbelow := numbering.below n e (hold ▸ h)
      omega
    · exact hlt
  · -- A new number is above those of all tasks that are as they were.
    rcases execution?_act law ha hm with holdm | ⟨hpollm, rfl, -⟩ <;>
      rcases execution?_act law ha hn with holdn | ⟨hpolln, he, -⟩
    · exact numbering.apart m n e (holdm ▸ hm) (holdn ▸ hn)
    · have hbelow := numbering.below m e (holdm ▸ hm)
      omega
    · have hbelow := numbering.below n _ (holdn ▸ hn)
      omega
    · rw [hpollm] at hpolln
      cases hpolln
      rfl

theorem numbering_start (b : σ) : Numbering ({ backend := b } : System σ) where
  below _ _ h := nomatch h
  apart _ _ _ h := nomatch h

theorem numbering_of_reachable {s : System σ} (h : Reachable B s) : Numbering s := by
  induction h with
  | start b => exact numbering_start b
  | act hs ha ih => exact ih.act (slotLaw_of_reachable hs) ha

/-! ## What a number leads to -/

/-- A task that waits for a statement with a number of before has waited for it ever since. -/
theorem tasks_of_later {s s' : System σ} (hs : Reachable B s) (hlater : Later B s s') {n e : Nat}
    (h : (s'.tasks n).execution? = some e) (he : e < s.executionCount) :
    s'.tasks n = s.tasks n := by
  induction hlater with
  | refl => rfl
  | @act s₁ a hlater ha ih =>
    have hle := le_executionCount_of_later hs hlater
    rcases execution?_act (slotLaw_of_reachable (hlater.reachable hs)) ha h with
      hold | ⟨-, rfl, -⟩
    · exact hold.trans (ih (hold ▸ h))
    · omega

theorem Agree.exists_execute {s : System σ} (agree : Agree s) {i : Nat} {running : Running}
    (h : s.slotOf i = .running running) :
    ∃ n statement finish, s.tasks n = .execute i statement finish (some running) := by
  obtain ⟨n, hheld⟩ := agree.holder i (by rw [h]; exact nofun)
  rw [h] at hheld
  unfold Task.held? at hheld
  split at hheld
  · next htask =>
    cases hheld
    exact ⟨n, _, _, htask⟩
  · cases hheld
  · cases hheld

/-- Whatever happens meanwhile, statements with one number are one statement. -/
theorem eq_of_execution_eq {s s' : System σ} (hs : Reachable B s) (hlater : Later B s s')
    {i j : Nat} {running running' : Running} (h : s.slotOf i = .running running)
    (h' : s'.slotOf j = .running running') (he : running'.execution = running.execution) :
    j = i ∧ running' = running := by
  have numbering := numbering_of_reachable hs
  obtain ⟨m, statement, finish, hm⟩ := (slotLaw_of_reachable hs).exists_execute h
  obtain ⟨n, statement', finish', hn⟩ :=
    (slotLaw_of_reachable (hlater.reachable hs)).exists_execute h'
  have hnumber : (s.tasks m).execution? = some running.execution := by rw [hm]; rfl
  have hnumber' : (s'.tasks n).execution? = some running.execution := by rw [hn, ← he]; rfl
  have hkept := tasks_of_later hs hlater hnumber' (numbering.below m _ hnumber)
  obtain rfl : m = n := numbering.apart m n _ hnumber (hkept ▸ hnumber')
  rw [hn, hm] at hkept
  cases hkept
  exact ⟨rfl, rfl⟩

end System

end SnowflakeSql
