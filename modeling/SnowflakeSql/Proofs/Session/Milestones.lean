import Mathlib.Data.List.TakeWhile
import SnowflakeSql.Proofs.Session.SlotLaw

/-!
# The lives of sessions

The life of a session is what its users and its driver see of it, turn by turn: that its
connection was handed out or refused, the errors that it reported, and every time that closing it
was completed (`Milestone`).  It says what a connection must show (`Life.Tracks`): a listener until
the session is closed for the first time, and as its marker the last of the errors that were heard
until then and of the errors that closing it failed with (`Life.marker`).

A `Chronicle` is a system together with the lives of its sessions, which the results of the tasks
tell (`Task.turn?`).  `Chronicle.Reachable` says that it came about by some sequence of
happenings in which a connection is used only once it was handed out.
-/

namespace SnowflakeSql

/-- A turn in the life of a session. -/
inductive Milestone where
  /-- Its connection was handed out. -/
  | acquired
  /-- It could not be opened. -/
  | refused (error : DriverError)
  /-- It reported an error, whether or not anybody heard it. -/
  | errored (error : DriverError)
  /-- Closing it was completed, well or not. -/
  | destroyed (outcome : Except DriverError Unit)

namespace Milestone

def isAcquired : Milestone → Bool
  | acquired => true
  | _ => false

def isRefused : Milestone → Bool
  | refused _ => true
  | _ => false

def isDestroyed : Milestone → Bool
  | destroyed _ => true
  | _ => false

/-- The error that the session reported. -/
def report? : Milestone → Option DriverError
  | errored e => some e
  | _ => none

/-- The error that closing the session failed with. -/
def failure? : Milestone → Option DriverError
  | destroyed (.error e) => some e
  | _ => none

end Milestone

/-- The life of a session, in the order of time. -/
abbrev Life := List Milestone

namespace Life

/-- The connection was handed out. -/
def isAcquired (life : Life) : Bool := life.any Milestone.isAcquired

/-- The session could not be opened. -/
def isRefused (life : Life) : Bool := life.any Milestone.isRefused

/-- Closing the session was completed at least once. -/
def isDestroyed (life : Life) : Bool := life.any Milestone.isDestroyed

/-- The errors reported before the session was closed for the first time. -/
def heard (life : Life) : List DriverError :=
  (life.takeWhile fun m => !m.isDestroyed).filterMap Milestone.report?

/-- The errors that closing the session failed with. -/
def failures (life : Life) : List DriverError := life.filterMap Milestone.failure?

/-- The error that makes the connection unusable: the last one that closing it failed with, or
else the last one that was heard. -/
def marker (life : Life) : Option DriverError := life.failures.getLast?.or life.heard.getLast?

/-- What a connection must show after such a life of its session. -/
structure Tracks (life : Life) (c : Connection) : Prop where
  listeners : c.listeners = if life.isDestroyed then 0 else 1
  closed : c.closed = life.isDestroyed
  disposed : c.disposed = life.marker

/-- A connection shows the life of its session, unless that could not be opened: then it was not
handed out, and nobody listens. -/
structure Shows (life : Life) (c : Connection) : Prop where
  tracks : life.isRefused = false → life.Tracks c
  silent : life.isRefused = true → c.listeners = 0
  settled : life.isAcquired = true → life.isRefused = false

/-! ## One more turn -/

theorem isAcquired_append (life life' : Life) :
    isAcquired (life ++ life') = (life.isAcquired || life'.isAcquired) := List.any_append

theorem isRefused_append (life life' : Life) :
    isRefused (life ++ life') = (life.isRefused || life'.isRefused) := List.any_append

theorem isDestroyed_append (life life' : Life) :
    isDestroyed (life ++ life') = (life.isDestroyed || life'.isDestroyed) := List.any_append

theorem failures_append (life life' : Life) :
    failures (life ++ life') = life.failures ++ life'.failures := List.filterMap_append

/-- After the session was closed nothing is heard any more. -/
theorem heard_append_of_isDestroyed {life : Life} (h : life.isDestroyed = true) (life' : Life) :
    heard (life ++ life') = life.heard := by
  induction life with
  | nil => cases h
  | cons m life ih =>
    unfold heard
    rw [List.cons_append, List.takeWhile_cons, List.takeWhile_cons]
    cases hm : m.isDestroyed with
    | true => rfl
    | false =>
      unfold isDestroyed at h
      rw [List.any_cons, hm] at h
      have hrest := ih h
      unfold heard at hrest
      simp only [Bool.not_false, if_true, List.filterMap_cons, hrest]

theorem heard_append_of_not_isDestroyed {life : Life} (h : life.isDestroyed = false)
    (life' : Life) : heard (life ++ life') = life.heard ++ life'.heard := by
  have hkept : ∀ m ∈ life, (!m.isDestroyed) = true := fun m hm => by
    rw [Bool.not_eq_true', ← Bool.not_eq_true]
    exact List.any_eq_false.mp h m hm
  unfold heard
  rw [List.takeWhile_append_of_pos hkept, List.takeWhile_eq_self_iff.mpr hkept,
    List.filterMap_append]

theorem failures_of_not_isDestroyed {life : Life} (h : life.isDestroyed = false) :
    life.failures = [] := by
  refine List.filterMap_eq_nil_iff.mpr fun m hm => ?_
  have hnot := List.any_eq_false.mp h m hm
  cases m with
  | destroyed outcome => exact absurd rfl hnot
  | acquired | refused | errored => rfl

theorem marker_errored (life : Life) (e : DriverError) :
    marker (life ++ [.errored e]) = if life.isDestroyed then life.marker else some e := by
  unfold marker
  have hsame : failures (life ++ [.errored e]) = life.failures := by
    rw [failures_append]
    exact List.append_nil _
  rw [hsame]
  split_ifs with h
  · rw [heard_append_of_isDestroyed h]
  · rw [Bool.not_eq_true] at h
    rw [heard_append_of_not_isDestroyed h, failures_of_not_isDestroyed h]
    exact List.getLast?_concat

theorem marker_failed (life : Life) (e : DriverError) :
    marker (life ++ [.destroyed (.error e)]) = some e := by
  unfold marker
  rw [failures_append]
  exact congrArg (Option.or · _) List.getLast?_concat

/-- What reports no error and fails with none does not matter to the marker. -/
theorem marker_append_of_silent (life : Life) {m : Milestone} (hreport : m.report? = none)
    (hfailure : m.failure? = none) : marker (life ++ [m]) = life.marker := by
  have hheard : heard (life ++ [m]) = life.heard := by
    cases h : life.isDestroyed with
    | true => exact heard_append_of_isDestroyed h [m]
    | false =>
      have hm : heard [m] = [] := by
        unfold heard
        rw [List.takeWhile_cons]
        split_ifs
        · exact List.filterMap_cons_none hreport
        · rfl
      rw [heard_append_of_not_isDestroyed h, hm, List.append_nil]
  have hfailures : failures (life ++ [m]) = life.failures := by
    rw [failures_append]
    exact (congrArg (_ ++ ·) (List.filterMap_cons_none hfailure)).trans (List.append_nil _)
  unfold marker
  rw [hheard, hfailures]

theorem marker_isSome_append {life : Life} (h : life.marker.isSome = true) (m : Milestone) :
    (marker (life ++ [m])).isSome = true := by
  cases m with
  | acquired => rwa [marker_append_of_silent life rfl rfl]
  | refused e => rwa [marker_append_of_silent life rfl rfl]
  | errored e =>
    rw [marker_errored]
    split_ifs
    · exact h
    · rfl
  | destroyed outcome =>
    cases outcome with
    | ok _ => rwa [marker_append_of_silent life rfl rfl]
    | error e =>
      rw [marker_failed]
      rfl

/-! ## What the connection shows after it -/

theorem tracks_new : Tracks [] { listeners := 1 } := ⟨rfl, rfl, rfl⟩

/-- The slot of the connection does not matter. -/
theorem Tracks.of_release_eq {life : Life} {c c' : Connection} (h : life.Tracks c)
    (hc : c'.release = c.release) : life.Tracks c' where
  listeners := (congrArg Connection.listeners hc).trans h.listeners
  closed := (congrArg Connection.closed hc).trans h.closed
  disposed := (congrArg Connection.disposed hc).trans h.disposed

theorem Tracks.acquired {life : Life} {c : Connection} (h : life.Tracks c) :
    Tracks (life ++ [.acquired]) c where
  listeners := by
    rw [isDestroyed_append, h.listeners]
    exact congrArg (if · = true then 0 else 1) (Bool.or_false _).symm
  closed := by
    rw [isDestroyed_append, h.closed]
    exact (Bool.or_false _).symm
  disposed := by rw [marker_append_of_silent life rfl rfl, h.disposed]

theorem Tracks.hear {life : Life} {c : Connection} (h : life.Tracks c) (e : DriverError) :
    Tracks (life ++ [.errored e]) (c.hear e) := by
  have hsame : isDestroyed (life ++ [.errored e]) = life.isDestroyed := by
    rw [isDestroyed_append]
    exact Bool.or_false _
  have hlisteners := h.listeners
  unfold Connection.hear
  split_ifs with hzero
  · have hended : life.isDestroyed = true := by
      by_contra hnot
      rw [if_neg hnot, hzero] at hlisteners
      cases hlisteners
    refine ⟨hsame ▸ hlisteners, hsame ▸ h.closed, ?_⟩
    rw [marker_errored, if_pos hended, h.disposed]
  · have hlasting : ¬ life.isDestroyed = true := fun hended =>
      hzero (by rw [hlisteners, if_pos hended])
    refine ⟨hsame ▸ hlisteners, hsame ▸ h.closed, ?_⟩
    rw [marker_errored, if_neg hlasting]

theorem Tracks.close {life : Life} {c : Connection} (h : life.Tracks c)
    (outcome : Except DriverError Unit) :
    Tracks (life ++ [.destroyed outcome]) (c.close outcome) := by
  have hended : isDestroyed (life ++ [.destroyed outcome]) = true := by
    rw [isDestroyed_append]
    exact Bool.or_true _
  refine ⟨by rw [hended]; rfl, by rw [hended]; rfl, ?_⟩
  cases outcome with
  | ok _ => exact h.disposed.trans (marker_append_of_silent life rfl rfl).symm
  | error e => exact (marker_failed life e).symm

theorem shows_new : Shows [] { listeners := 1 } := ⟨fun _ => tracks_new, nofun, nofun⟩

theorem Shows.of_release_eq {life : Life} {c c' : Connection} (h : life.Shows c)
    (hc : c'.release = c.release) : life.Shows c' where
  tracks hopen := (h.tracks hopen).of_release_eq hc
  silent hrefused := (congrArg Connection.listeners hc).trans (h.silent hrefused)
  settled := h.settled

/-- A turn after which the session is as open as before. -/
theorem Shows.turn {life : Life} {c c' : Connection} {m : Milestone} (h : life.Shows c)
    (hacquired : m.isAcquired = false) (hrefused : m.isRefused = false)
    (htracks : life.Tracks c → Tracks (life ++ [m]) c')
    (hsilent : c.listeners = 0 → c'.listeners = 0) : Shows (life ++ [m]) c' := by
  have ha : isAcquired (life ++ [m]) = life.isAcquired := by
    rw [isAcquired_append, show isAcquired [m] = false from (Bool.or_false _).trans hacquired,
      Bool.or_false]
  have hr : isRefused (life ++ [m]) = life.isRefused := by
    rw [isRefused_append, show isRefused [m] = false from (Bool.or_false _).trans hrefused,
      Bool.or_false]
  exact ⟨fun hopen => htracks (h.tracks (hr ▸ hopen)), fun hr' => hsilent (h.silent (hr ▸ hr')),
    fun ha' => hr ▸ h.settled (ha ▸ ha')⟩

theorem Shows.hear {life : Life} {c : Connection} (h : life.Shows c) (e : DriverError) :
    Shows (life ++ [.errored e]) (c.hear e) := by
  refine h.turn rfl rfl (fun htracks => htracks.hear e) fun hzero => ?_
  unfold Connection.hear
  rwa [if_pos hzero]

theorem Shows.close {life : Life} {c : Connection} (h : life.Shows c)
    (outcome : Except DriverError Unit) :
    Shows (life ++ [.destroyed outcome]) (c.close outcome) :=
  h.turn rfl rfl (fun htracks => htracks.close outcome) fun _ => rfl

theorem Shows.acquired {life : Life} {c : Connection} (h : life.Shows c)
    (hopen : life.isRefused = false) : Shows (life ++ [.acquired]) c := by
  have hrefused : isRefused (life ++ [.acquired]) = false := by
    rw [isRefused_append, hopen]
    rfl
  refine ⟨fun _ => (h.tracks hopen).acquired, fun hr => ?_, fun _ => hrefused⟩
  rw [hrefused] at hr
  cases hr

theorem Shows.refused {life : Life} (hnot : life.isAcquired = false) (e : DriverError)
    {c : Connection} (hc : c.listeners = 0) : Shows (life ++ [.refused e]) c := by
  have hrefused : isRefused (life ++ [.refused e]) = true := by
    rw [isRefused_append]
    exact Bool.or_true _
  have hacquired : isAcquired (life ++ [.refused e]) = false := by
    rw [isAcquired_append, hnot]
    rfl
  refine ⟨fun hr => ?_, fun _ => hc, fun ha => ?_⟩
  · rw [hrefused] at hr
    cases hr
  · rw [hacquired] at ha
    cases ha

end Life

/-! ## Systems and the lives in them -/

/-- A system, with the lives of its sessions so far. -/
structure Chronicle (σ : Type) where
  system : System σ
  lives : Numbered Life := fun _ => []

/-- The session that a task is opening. -/
def Task.opens? : Task → Option Nat
  | .acquire _ connection => connection
  | _ => none

/-- The connection that a task was given to use. -/
def Task.uses? : Task → Option Nat
  | .absent | .acquire _ _ => none
  | .validate i _ | .destroy i _ | .cancel i _ | .execute i _ _ _ | .stream i _ _ _ => some i

/-- The turn that the result of a task is for a session, where `next` is the session that would
be created next. -/
def Task.turn? (next : Nat) :
    Task → Option (Except ClientError Reply) → Option (Nat × Milestone)
  | .acquire _ _, some (.ok (.connected i)) => some (i, .acquired)
  | .acquire _ connection, some (.error (.connection e)) =>
    some (connection.getD next, .refused e)
  | .destroy i _, some (.ok _) => some (i, .destroyed (.ok ()))
  | .destroy i _, some (.error (.destroy e)) => some (i, .destroyed (.error e))
  | _, _ => none

namespace Chronicle

open SnowflakeSql.System

variable {σ : Type} (B : Backend σ)

/-- The turn that a happening is for a session: one that a session reports, or that a task ends
with.  A session that is still to be created reports nothing. -/
def turn? (s : System σ) : Action σ → Option (Nat × Milestone)
  | .reportError i e => if i < s.sessionCount then some (i, .errored e) else none
  | .poll n => (s.tasks n).turn? s.sessionCount (s.poll B n).1
  | _ => none

/-- The lives with another turn. -/
def noted (lives : Numbered Life) : Option (Nat × Milestone) → Numbered Life
  | some (i, m) => lives.put i (lives i ++ [m])
  | none => lives

/-- The chronicle after something has happened. -/
def act (c : Chronicle σ) (a : Action σ) : Chronicle σ where
  system := c.system.act B a
  lives := noted c.lives (turn? B c.system a)

/-- The happening begins no task but a fresh one, and none on a connection that was not handed
out. -/
def Allowed (c : Chronicle σ) : Action σ → Prop
  | .begin task => task.IsFresh ∧ ∀ i, task.uses? = some i → (c.lives i).isAcquired = true
  | _ => True

/-- Some sequence of happenings leads to the chronicle. -/
inductive Reachable : Chronicle σ → Prop where
  | start (b : σ) : Reachable { system := { backend := b } }
  | act {c : Chronicle σ} {a : Action σ} : Reachable c → c.Allowed a → Reachable (c.act B a)

/-- Some sequence of happenings leads from the first chronicle to the second. -/
inductive Later (c : Chronicle σ) : Chronicle σ → Prop where
  | refl : Later c c
  | act {c' : Chronicle σ} {a : Action σ} : Later c c' → c'.Allowed a → Later c (c'.act B a)

end Chronicle

end SnowflakeSql
