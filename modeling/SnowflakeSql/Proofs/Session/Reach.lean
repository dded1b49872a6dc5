import Mathlib.Tactic.Common
import SnowflakeSql.Session.Poll

/-!
# Reachable states

A task begins before it was ever polled (`Task.IsFresh`) and on a connection whose session has
been created.  Apart from that anything may happen in any order: tasks are polled and given up,
channels are read and closed, sessions report errors, and the driver, of which nothing is
assumed, changes on its own account.  `Reachable B s` says that some such sequence of happenings
leads from a system without connections to `s`.
-/

namespace SnowflakeSql

/-- The task has not been polled yet. -/
def Task.IsFresh : Task → Prop
  | .absent => True
  | .acquire _ connection => connection = none
  | .validate _ asked | .destroy _ asked => asked = false
  | .cancel _ target => target = none
  | .execute _ _ _ running => running = none
  | .stream _ _ _ stage => stage = .fresh

/-- The connection that a statement runs on, and the statement. -/
def Task.statementOn? : Task → Option (Nat × Statement)
  | .execute i statement _ _ | .stream i statement _ _ => some (i, statement)
  | _ => none

namespace System

variable {σ : Type} (B : Backend σ)

/-- The happening begins no task but a fresh one, and a statement only on a created session. -/
def Allowed (s : System σ) : Action σ → Prop
  | .begin task => task.IsFresh ∧ ∀ w, task.statementOn? = some w → w.1 < s.sessionCount
  | _ => True

/-- Some sequence of happenings leads to the state. -/
inductive Reachable : System σ → Prop where
  | start (b : σ) : Reachable { backend := b }
  | act {s : System σ} {a : Action σ} : Reachable s → Allowed s a → Reachable (act B s a)

variable {B}

theorem Reachable.poll {s : System σ} (h : Reachable B s) (n : Nat) : Reachable B (s.poll B n).2 :=
  h.act (a := .poll n) trivial

/-- What holds at the start and is kept by every happening holds in every reachable state. -/
theorem Reachable.invariant {P : System σ → Prop} (start : ∀ b, P { backend := b })
    (step : ∀ s a, Allowed s a → P s → P (System.act B s a)) {s : System σ}
    (h : Reachable B s) : P s := by
  induction h with
  | start b => exact start b
  | act _ ha ih => exact step _ _ ha ih

end System

end SnowflakeSql
