import SnowflakeSql.Proofs.Session.Runs
import SnowflakeSql.Session.Rehearsal

/-!
# What validating vouches for

Validating looks at the connection once, before its session is probed, and then gives the answer
of the probe (`valid_iff`).  So a yes vouches for a connection that was not dead when the
validating began (`alive_of_valid`), which is when it ends if the driver answers at once
(`alive_of_valid_at_once`).  While the driver takes its time the session may report an error and
be closed, and nobody looks again: the yes may be said of a connection that is dead and closed by
then (`valid_lateProbe`).
-/

namespace SnowflakeSql

namespace System

variable {σ : Type} {B : Backend σ} {n i : Nat}

theorem result?_awaitProbe_iff (s : System σ) :
    (awaitProbe B i s).1.result? = some (.ok (.valid true)) ↔
      (B.probe i s.backend).1 = some (.ok true) := by
  unfold awaitProbe
  split
  · next hanswer =>
    rw [hanswer]
    exact ⟨nofun, nofun⟩
  · next valid _ hanswer =>
    rw [hanswer]
    constructor
    · rintro ⟨⟩
      rfl
    · rintro ⟨⟩
      rfl
  · next hanswer =>
    rw [hanswer]
    exact ⟨nofun, nofun⟩

/-- A poll says yes exactly if the probe does, unless it is the first one and the connection is
dead. -/
theorem valid_iff {s : System σ} {asked : Bool} (htask : s.tasks n = .validate i asked) :
    (s.poll B n).1 = some (.ok (.valid true)) ↔
      (asked = false → (s.connections i).isDead = false) ∧
        (B.probe i s.backend).1 = some (.ok true) := by
  rw [poll_fst, htask]
  show (pollValidate B i asked s).1.result? = _ ↔ _
  unfold pollValidate
  split_ifs with hasked hdead
  · rw [result?_awaitProbe_iff]
    exact (and_iff_right fun hnot => by rw [hasked] at hnot; cases hnot).symm
  · refine ⟨nofun, fun h => ?_⟩
    have halive := h.1 (Bool.not_eq_true _ ▸ hasked)
    rw [hdead] at halive
    cases halive
  · rw [result?_awaitProbe_iff]
    exact (and_iff_right fun _ => Bool.not_eq_true _ ▸ hdead).symm

theorem connections_awaitProbe (s : System σ) :
    (awaitProbe B i s).2.connections = s.connections := by
  unfold awaitProbe
  split <;> rfl

theorem connections_pollValidate (asked : Bool) (s : System σ) :
    (pollValidate B i asked s).2.connections = s.connections := by
  unfold pollValidate
  split_ifs
  · exact connections_awaitProbe s
  · rfl
  · exact connections_awaitProbe (s.record i .probe)

/-- A driver that answers at once vouches for a connection that is alive. -/
theorem alive_of_valid_at_once {s : System σ} (htask : s.tasks n = .validate i false)
    (h : (s.poll B n).1 = some (.ok (.valid true))) :
    ((s.poll B n).2.connections i).isDead = false := by
  have halive := ((valid_iff htask).mp h).1 rfl
  have hsame : (s.poll B n).2.connections = s.connections := by
    rw [poll_snd, htask]
    exact connections_pollValidate false s
  rw [hsame, halive]

/-! ## While the driver takes its time -/

/-- How far validating has come since `s`: it has not looked at the connection yet, or it has
found it alive and asks its session, or it is over. -/
inductive Validating (B : Backend σ) (s : System σ) (n i : Nat) (s' : System σ) : Prop where
  | fresh : s'.tasks n = .validate i false → Validating B s n i s'
  | asking (s₁ : System σ) : s'.tasks n = .validate i true → Later B s s₁ → Later B s₁ s' →
      s₁.tasks n = .validate i false → (s₁.connections i).isDead = false → Validating B s n i s'
  | ended : s'.tasks n = .absent → Validating B s n i s'

theorem rest_awaitProbe_cases (s : System σ) :
    (awaitProbe B i s).1.rest = .absent ∨ (awaitProbe B i s).1.rest = .validate i true := by
  unfold awaitProbe
  split
  · exact .inr rfl
  · exact .inl rfl
  · exact .inl rfl

/-- Validating that is not over after a poll has found the connection alive. -/
theorem rest_pollValidate_cases (asked : Bool) (s : System σ) :
    (pollValidate B i asked s).1.rest = .absent ∨
      (pollValidate B i asked s).1.rest = .validate i true ∧
        (asked = false → (s.connections i).isDead = false) := by
  unfold pollValidate
  split_ifs with hasked hdead
  · refine (rest_awaitProbe_cases s).imp_right fun hrest => ⟨hrest, fun hnot => ?_⟩
    rw [hasked] at hnot
    cases hnot
  · exact .inl rfl
  · exact (rest_awaitProbe_cases _).imp_right fun hrest =>
      ⟨hrest, fun _ => Bool.not_eq_true _ ▸ hdead⟩

theorem Validating.act {s s' : System σ} (h : Validating B s n i s') (hlater : Later B s s')
    (law : SlotLaw s') (hn : n < s'.taskCount) {a : Action σ} (ha : Allowed s' a) :
    Validating B s n i (System.act B s' a) := by
  obtain ⟨-, hsame | habsent | ⟨-, hpolled⟩⟩ := tasks_act (B := B) law hn a
  · cases h with
    | fresh htask => exact .fresh (hsame.trans htask)
    | asking s₁ htask h₁ h₂ hfresh halive =>
      exact .asking s₁ (hsame.trans htask) h₁ (h₂.act ha) hfresh halive
    | ended htask => exact .ended (hsame.trans htask)
  · exact .ended habsent
  · cases h with
    | fresh htask =>
      rw [htask] at hpolled
      rcases rest_pollValidate_cases (B := B) (i := i) false s' with hrest | ⟨hrest, halive⟩
      · exact .ended (hpolled.trans hrest)
      · exact .asking s' (hpolled.trans hrest) hlater (.act .refl ha) htask (halive rfl)
    | asking s₁ htask h₁ h₂ hfresh halive =>
      rw [htask] at hpolled
      rcases rest_pollValidate_cases (B := B) (i := i) true s' with hrest | ⟨hrest, -⟩
      · exact .ended (hpolled.trans hrest)
      · exact .asking s₁ (hpolled.trans hrest) h₁ (h₂.act ha) hfresh halive
    | ended htask =>
      rw [htask] at hpolled
      exact .ended hpolled

theorem validating_of_later {s s' : System σ} (hs : Reachable B s)
    (htask : s.tasks n = .validate i false) (hlater : Later B s s') :
    Validating B s n i s' ∧ n < s'.taskCount := by
  induction hlater with
  | refl =>
    exact ⟨.fresh htask, (slotLaw_of_reachable hs).lt_taskCount (by rw [htask]; exact nofun)⟩
  | act hlater ha ih =>
    have law := slotLaw_of_reachable (hlater.reachable hs)
    exact ⟨ih.1.act hlater law ih.2 ha, (tasks_act law ih.2 _).1⟩

/-- Whatever happens meanwhile: validating that ends with a yes found the connection alive when
it began, and the yes is the probe's. -/
theorem alive_of_valid {s s' : System σ} (hs : Reachable B s)
    (htask : s.tasks n = .validate i false) (hlater : Later B s s')
    (h : (s'.poll B n).1 = some (.ok (.valid true))) :
    (B.probe i s'.backend).1 = some (.ok true) ∧
      ∃ s₁, Later B s s₁ ∧ Later B s₁ s' ∧ s₁.tasks n = .validate i false ∧
        (s₁.connections i).isDead = false := by
  cases (validating_of_later hs htask hlater).1 with
  | fresh htask' =>
    obtain ⟨halive, hprobe⟩ := (valid_iff htask').mp h
    exact ⟨hprobe, s', hlater, .refl, htask', halive rfl⟩
  | asking s₁ htask' h₁ h₂ hfresh halive =>
    exact ⟨((valid_iff htask').mp h).2, s₁, h₁, h₂, hfresh, halive⟩
  | ended habsent =>
    rw [poll_fst, habsent] at h
    cases h

/-! ## Too late -/

/-- The rehearsed driver, but with no answer to a probe while it is to hold the next
statement. -/
def slowProbe : Backend Rehearsal :=
  { Rehearsal.backend with
    probe := fun _ r => (if r.holdsNext then none else some r.probeAnswer, r) }

/-- A session was probed, reports an error and is closed, and then its driver can answer. -/
def lateProbe : System Rehearsal :=
  run slowProbe { backend := { holdsNext := true } }
    [.begin (.acquire {} none), .poll 0, .begin (.validate 0 false), .poll 1,
      .reportError 0 Rehearsal.cancelError, .begin (.destroy 0 false), .poll 2,
      .backend fun r => { r with holdsNext := false }]

/-- Validating vouches for a connection that is dead and closed. -/
theorem valid_lateProbe :
    Reachable slowProbe lateProbe ∧
      (lateProbe.poll slowProbe 1).1 = some (.ok (.valid true)) ∧
      (lateProbe.poll slowProbe 1).2.connections 0 =
        { disposed := some Rehearsal.cancelError, closed := true, listeners := 0 } := by
  refine ⟨?_, rfl, rfl⟩
  have hacquired := ((Reachable.start (B := slowProbe) { holdsNext := true }).act
    (a := .begin (.acquire {} none)) ⟨rfl, fun _ h => nomatch h⟩).poll 0
  have hasked :=
    (hacquired.act (a := .begin (.validate 0 false)) ⟨rfl, fun _ h => nomatch h⟩).poll 1
  have hlost := hasked.act (a := .reportError 0 Rehearsal.cancelError) trivial
  have hclosed := (hlost.act (a := .begin (.destroy 0 false)) ⟨rfl, fun _ h => nomatch h⟩).poll 2
  exact hclosed.act (a := .backend fun r => { r with holdsNext := false }) trivial

end System

end SnowflakeSql
