/-!
# Errors

A `DriverError` is what the backend reports, and is carried unchanged.  A `CompileError` says
why a description has no SQL.  A `ClientError` is what a caller gets: a backend error with the
activity that met it, or a reason why the backend was not asked.  `message` words each.
-/

namespace SnowflakeSql

/-- An error that the backend reports. -/
structure DriverError where
  message : String
  code : Option String := none
  sqlState : Option String := none
  deriving DecidableEq, Repr, Inhabited

/-- Why a description has no SQL. -/
inductive CompileError where
  /-- The statement needs a table. -/
  | missingTable (statement : String)
  /-- The statement needs a column. -/
  | emptyColumns (statement : String)
  /-- The dialect has nothing of the kind. -/
  | unsupported (dialect feature : String)
  deriving DecidableEq, Repr

/-- The wording of a compile error. -/
def CompileError.message : CompileError → String
  | missingTable statement => "Table name is required for " ++ statement
  | emptyColumns statement => "At least one column is required for " ++ statement
  | unsupported dialect feature => dialect ++ " does not support " ++ feature

/-- What a caller of a client can meet. -/
inductive ClientError where
  /-- A session could not be opened. -/
  | connection (error : DriverError)
  /-- A session could not be closed. -/
  | destroy (error : DriverError)
  /-- A statement could not be cancelled. -/
  | cancel (error : DriverError)
  /-- The backend rejected a statement. -/
  | execution (error : DriverError)
  /-- Rows stopped coming. -/
  | stream (error : DriverError)
  /-- There was no SQL to stream the rows of. -/
  | emptyQuery
  /-- The connection runs a statement already. -/
  | statementInProgress (statement : String)
  /-- There is no SQL for the description. -/
  | compile (error : CompileError)
  deriving DecidableEq, Repr

namespace ClientError

/-- The backend error that is carried. -/
def driverError? : ClientError → Option DriverError
  | connection e | destroy e | cancel e | execution e | stream e => some e
  | emptyQuery | statementInProgress _ | compile _ => none

/-- The wording of a client error; a backend error keeps its own. -/
def message : ClientError → String
  | connection e | destroy e | cancel e | execution e | stream e => e.message
  | emptyQuery => "query is empty"
  | statementInProgress statement =>
    "Connection already has a running statement (" ++ statement ++ ")"
  | compile e => e.message

theorem message_of_driverError? {error : ClientError} {e : DriverError}
    (h : error.driverError? = some e) : error.message = e.message := by
  cases error <;> cases h <;> rfl

end ClientError

end SnowflakeSql
