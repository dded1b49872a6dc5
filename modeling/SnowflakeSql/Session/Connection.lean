import SnowflakeSql.Error
import SnowflakeSql.Response.Basic

/-!
# Connections

A `Connection` is a session with what is known of it: an error that made it unusable, whether
it was closed, how many listeners hear its errors, and the one statement that it may run.  A
statement first reserves the slot (`Connection.reserve`), which fails while another has it; a
buffered statement then attaches what the backend calls it; and the slot is freed when the
statement ends or is given up.
-/

namespace SnowflakeSql

/-- A statement that the backend runs, by its number and as the backend knows it. -/
structure Running where
  execution : Nat
  info : StatementInfo
  deriving DecidableEq, Repr

/-- What the slot of a connection holds. -/
inductive Slot where
  | idle
  /-- It is reserved for a statement that the backend has not named. -/
  | starting
  | running (statement : Running)
  deriving DecidableEq, Repr

/-- A session and what is known of it. -/
structure Connection where
  /-- The last error that made it unusable. -/
  disposed : Option DriverError := none
  closed : Bool := false
  slot : Slot := .idle
  /-- How many listeners hear of errors of the session. -/
  listeners : Nat := 0
  deriving DecidableEq, Repr

namespace Connection

/-- Whether the connection must not be used any more. -/
def isDead (c : Connection) : Bool := c.disposed.isSome || c.closed

/-- The statement that is running. -/
def running? (c : Connection) : Option Running :=
  match c.slot with
  | .running statement => some statement
  | .idle | .starting => none

/-- The connection with its slot reserved, unless a statement has it. -/
def reserve (c : Connection) : Except ClientError Connection :=
  match c.slot with
  | .idle => .ok { c with slot := .starting }
  | .starting => .error (.statementInProgress "starting")
  | .running statement => .error (.statementInProgress statement.info.queryId)

/-- The connection running the statement. -/
def attach (c : Connection) (statement : Running) : Connection :=
  { c with slot := .running statement }

/-- The connection with its slot free. -/
def release (c : Connection) : Connection := { c with slot := .idle }

/-- The connection after the session reports an error; without listeners nobody hears it. -/
def hear (c : Connection) (error : DriverError) : Connection :=
  if c.listeners = 0 then c else { c with disposed := some error }

/-- The connection after the session was closed, well or not; nobody listens any more. -/
def close (c : Connection) (outcome : Except DriverError Unit) : Connection :=
  { c with
    closed := true
    disposed := match outcome with
      | .error e => some e
      | .ok _ => c.disposed
    listeners := 0 }

/-- A connection can be reserved exactly when its slot is idle. -/
theorem reserve_isOk_iff (c : Connection) : c.reserve.isOk = true ↔ c.slot = .idle := by
  unfold reserve
  split <;> simp_all [Except.isOk, Except.toBool]

end Connection

end SnowflakeSql
