import SnowflakeSql.Statement

/-!
# Queries

A `Query` describes a statement without the dialect: what it does, to which table, and with
which clauses.  It is begun for a method (`Query.select`, …, `Query.raw`) and then grows by
calls, each a `QueryCall`.  Calls of different kinds touch different clauses, so only the
order of calls of one kind matters.
-/

namespace SnowflakeSql

/-- A condition on rows. -/
inductive Condition where
  /-- The column compared with a value. -/
  | compare (column operator : String) (value : Value)
  /-- The column is one of the values. -/
  | oneOf (column : String) (values : List Value)
  /-- The column is null, or is not if `negated`. -/
  | isNull (column : String) (negated : Bool)

/-- A column that rows are ordered by. -/
structure SortTerm where
  column : String
  descending : Bool
  deriving DecidableEq, Repr

/-- A row to insert: values under column names. -/
abbrev InsertRow := List (String × Value)

/-- The description of a statement. -/
structure Query where
  method : Method
  table : Option String := none
  /-- The selected columns; none are all. -/
  columns : List String := []
  /-- The conditions, all of which have to hold. -/
  conditions : List Condition := []
  sorts : List SortTerm := []
  limit : Option Nat := none
  offset : Option Nat := none
  rows : List InsertRow := []
  assignments : List (String × Value) := []
  returning : List String := []
  /-- SQL text as given, with its values. -/
  rawSql : Option (String × List Value) := none
  options : Fields Json := []
  context : Option Context := none

namespace Query

/-- A selection of rows. -/
def select (table : String) : Query := { method := .select, table := some table }

/-- A selection of the first row. -/
def first (table : String) : Query := { method := .first, table := some table }

/-- A selection of one column's values. -/
def pluck (table column : String) : Query :=
  { method := .pluck, table := some table, columns := [column] }

/-- An insertion of rows. -/
def insert (table : String) : Query := { method := .insert, table := some table }

/-- A change of rows. -/
def update (table : String) : Query := { method := .update, table := some table }

/-- A deletion of rows. -/
def delete (table : String) : Query := { method := .delete, table := some table }

/-- The deletion of all rows. -/
def truncate (table : String) : Query := { method := .truncate, table := some table }

/-- How the columns, or the one column, are declared. -/
def columnInfo (table : String) (column : Option String) : Query :=
  { method := .columnInfo, table := some table, columns := column.toList }

/-- SQL text as given, with its values. -/
def raw (sql : String) (binds : List Value) : Query :=
  { method := .raw, rawSql := some (sql, binds) }

end Query

/-- One call on a query that is being described. -/
inductive QueryCall where
  | columns (columns : List String)
  | condition (condition : Condition)
  | orderBy (column : String) (descending : Bool)
  | limit (count : Nat)
  | offset (count : Nat)
  | row (row : InsertRow)
  | set (column : String) (value : Value)
  | returning (columns : List String)
  | option (key : String) (value : Json)
  | context (context : Context)

namespace QueryCall

/-- A comparison for equality. -/
def whereEq (column : String) (value : Value) : QueryCall := .condition (.compare column "=" value)

/-- The query after the call. -/
def apply (query : Query) : QueryCall → Query
  | columns cs => { query with columns := cs }
  | condition c => { query with conditions := query.conditions ++ [c] }
  | orderBy column descending => { query with sorts := query.sorts ++ [⟨column, descending⟩] }
  | limit n => { query with limit := some n }
  | offset n => { query with offset := some n }
  | row r => { query with rows := query.rows ++ [r] }
  | set column value => { query with assignments := query.assignments ++ [(column, value)] }
  | returning cs => { query with returning := cs }
  | option key value => { query with options := query.options.insert key value }
  | context c => { query with context := some c }

end QueryCall

/-- The query after a sequence of calls. -/
def Query.applyAll (query : Query) (calls : List QueryCall) : Query :=
  calls.foldl QueryCall.apply query

theorem Query.applyAll_append (query : Query) (xs ys : List QueryCall) :
    query.applyAll (xs ++ ys) = (query.applyAll xs).applyAll ys := List.foldl_append

end SnowflakeSql
