import SnowflakeSql.Session.Channel
import SnowflakeSql.Settings
import SnowflakeSql.Submission

/-!
# Backends

A `Backend` says how a driver behaves, as functions on a state of its own.  Sessions,
executions and cursors are known by numbers.  What takes time gives an `Answer`, which is not
there until the driver has it: the same question is asked again each time a task is polled.
Nothing is assumed of the answers.
-/

namespace SnowflakeSql

/-- An answer of the driver, none while it is not there yet. -/
abbrev Answer (α : Type) := Option (Except DriverError α)

/-- How a driver behaves. -/
structure Backend (σ : Type) where
  /-- Opens a session. -/
  connect : (session : Nat) → Settings → σ → Answer Unit × σ
  /-- Whether a session can still be used. -/
  probe : (session : Nat) → σ → Answer Bool × σ
  /-- Closes a session. -/
  close : (session : Nat) → σ → Answer Unit × σ
  /-- Starts a statement, and names it. -/
  execute : (session execution : Nat) → Submission → σ → StatementInfo × σ
  /-- The rows of a started statement. -/
  rows : (execution : Nat) → σ → Answer (Option (List Json)) × σ
  /-- Stops a started statement. -/
  cancel : (execution : Nat) → σ → Answer Unit × σ
  /-- Learns that nobody waits for a started statement any more. -/
  abandon : (execution : Nat) → σ → σ
  /-- Starts a statement whose rows come from a cursor. -/
  openCursor : (session cursor : Nat) → Submission → σ → σ
  /-- The next delivery of a cursor, or its end; none while it is not there yet. -/
  next : (cursor : Nat) → σ → Option (Option Delivery) × σ

end SnowflakeSql
