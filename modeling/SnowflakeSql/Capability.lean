import SnowflakeSql.Error

/-!
# What the dialect makes of general constructs

General descriptions name constructs that the dialect spells in its own way, replaces, ignores
or refuses.  `adaptation?` is the table of these; a construct that is not in it is spelled as
in the standard dialect.  What is ignored gives a `Warning`.
-/

namespace SnowflakeSql

/-- The name of the dialect. -/
def dialectName : String := "snowflake"

/-- The name of the driver that sessions are opened with. -/
def driverName : String := "snowflake-sdk"

/-- What is reported when a request is ignored. -/
inductive Warning where
  | noIndexes
  | noSavepoints
  deriving DecidableEq, Repr

/-- The wording of a warning. -/
def Warning.message : Warning → String
  | noIndexes => "Snowflake does not support the creation of indexes."
  | noSavepoints => "Snowflake does not support savepoints."

/-- How a construct is adapted. -/
inductive Adaptation where
  /-- It has another spelling. -/
  | native (sql : String)
  /-- Another type takes its place. -/
  | substitute (sql : String)
  /-- The column becomes not null instead. -/
  | notNullable
  /-- Nothing is done, and a warning given. -/
  | ignored (warning : Warning)
  /-- There is no SQL for it. -/
  | rejected
  deriving DecidableEq, Repr

namespace Adaptation

/-- The SQL that stands for the construct. -/
def fragment? : Adaptation → Option String
  | native sql | substitute sql => some sql
  | notNullable | ignored _ | rejected => none

/-- The warning that the construct gives. -/
def warning? : Adaptation → Option Warning
  | ignored warning => some warning
  | native _ | substitute _ | notNullable | rejected => none

end Adaptation

/-- The adapted constructs. -/
def adaptations : List (String × Adaptation) := [
  ("increments", .native "int not null autoincrement primary key"),
  ("bigincrements", .native "bigint not null autoincrement primary key"),
  ("mediumint", .substitute "integer"),
  ("decimal", .native "decimal"),
  ("double", .native "double"),
  ("enu", .substitute "varchar"),
  ("json", .substitute "variant"),
  ("jsonb", .substitute "variant"),
  ("primary", .notNullable),
  ("index", .ignored .noIndexes),
  ("dropIndex", .ignored .noIndexes),
  ("savepoint", .ignored .noSavepoints),
  ("release", .ignored .noSavepoints),
  ("rollbackTo", .ignored .noSavepoints),
  ("returning", .rejected)]

/-- How the construct is adapted, if it is. -/
def adaptation? (construct : String) : Option Adaptation := adaptations.lookup construct

/-- The SQL that stands for the construct, if it is adapted by a spelling. -/
def fragment? (construct : String) : Option String :=
  (adaptation? construct).bind Adaptation.fragment?

/-- The warnings that the construct gives: one if it is ignored. -/
def warningsOf (construct : String) : List Warning :=
  ((adaptation? construct).bind Adaptation.warning?).toList

/-- Refuses a construct that is rejected. -/
def ensureSupported (construct : String) : Except CompileError Unit :=
  match adaptation? construct with
  | some .rejected => .error (.unsupported dialectName construct)
  | _ => .ok ()

theorem warningsOf_index : warningsOf "index" = [.noIndexes] := by decide

theorem warningsOf_dropIndex : warningsOf "dropIndex" = [.noIndexes] := by decide

theorem warningsOf_savepoint : warningsOf "savepoint" = [.noSavepoints] := by decide

theorem warningsOf_release : warningsOf "release" = [.noSavepoints] := by decide

theorem warningsOf_rollbackTo : warningsOf "rollbackTo" = [.noSavepoints] := by decide

theorem ensureSupported_returning :
    ensureSupported "returning" = .error (.unsupported "snowflake" "returning") := rfl

end SnowflakeSql
