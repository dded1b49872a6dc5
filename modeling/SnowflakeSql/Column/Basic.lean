import SnowflakeSql.Value

/-!
# Columns

A `ColumnType` is a general type of a column, and a `Column` a whole description: name, type
and what was asked of it.  A request for a key or an index may or may not come with a name.
-/

namespace SnowflakeSql

/-- The general types of columns. -/
inductive ColumnType where
  /-- A counted key of four bytes. -/
  | increments
  /-- A counted key of eight bytes. -/
  | bigIncrements
  | integer
  | bigInteger
  | mediumInteger
  | smallInteger
  | tinyInteger
  | float (precision scale : Option Nat)
  | double (precision scale : Option Nat)
  | decimal (precision scale : Option Nat)
  | string (length : Option Nat)
  | text
  | boolean
  | date
  | datetime
  | timestamp
  | time
  | binary (length : Option Nat)
  | uuid
  | enum (values : List String)
  | json
  | jsonb
  /-- A type of the backend, spelled as given. -/
  | specific (sql : String)
  deriving DecidableEq, Repr

/-- Whether the type is a counted key, whose spelling has the primary key in it. -/
def ColumnType.isCounted : ColumnType → Bool
  | increments | bigIncrements => true
  | _ => false

/-- The default of a column. -/
inductive ColumnDefault where
  /-- A value, written inline. -/
  | value (value : Value)
  /-- SQL text, as given. -/
  | expression (sql : String)

/-- The SQL text of a default. -/
def ColumnDefault.sql : ColumnDefault → String
  | value v => v.inline
  | expression sql => sql

/-- A request that may come with a name. -/
inductive Request where
  | absent
  | present (name : Option String)
  deriving DecidableEq, Repr

/-- Whether the request was made. -/
def Request.isPresent : Request → Bool
  | absent => false
  | present _ => true

/-- The description of a column. -/
structure Column where
  name : String
  type : ColumnType
  /-- Whether nulls are allowed, if that is said. -/
  nullable : Option Bool := none
  default : Option ColumnDefault := none
  unique : Bool := false
  primary : Request := .absent
  index : Request := .absent
  comment : Option String := none
  collation : Option String := none

end SnowflakeSql
