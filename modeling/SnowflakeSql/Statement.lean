import SnowflakeSql.Context
import SnowflakeSql.Response.Basic
import SnowflakeSql.Text.Blank
import SnowflakeSql.Value

/-!
# Statements

A `Statement` is SQL text with the values of its placeholders in order, and with what is needed
to shape the response.  SQL is put together from a `Template`, whose pieces are text and the
places of values: `Template.sql` writes a question mark for each value and `Template.binds`
lists the values, so that the two cannot disagree.
-/

namespace SnowflakeSql

/-- What a statement does. -/
inductive Method where
  | raw
  | select
  /-- Reads the first row. -/
  | first
  /-- Reads one column. -/
  | pluck
  | insert
  | update
  | delete
  | truncate
  /-- Reads how the columns of a table are declared. -/
  | columnInfo
  deriving DecidableEq, Repr

/-- The name of a method. -/
def Method.name : Method → String
  | raw => "raw"
  | select => "select"
  | first => "first"
  | pluck => "pluck"
  | insert => "insert"
  | update => "update"
  | delete => "delete"
  | truncate => "truncate"
  | columnInfo => "columnInfo"

/-- SQL text with values in it. -/
inductive Piece where
  /-- Text as it stands. -/
  | text (sql : String)
  /-- The place of a value. -/
  | value (value : Value)

/-- The text of a piece, with a placeholder for a value. -/
def Piece.sql : Piece → String
  | text sql => sql
  | value _ => Value.placeholder

/-- The value of a piece, if it is the place of one. -/
def Piece.value? : Piece → Option Value
  | text _ => none
  | value v => some v

/-- Pieces of SQL in order. -/
abbrev Template := List Piece

namespace Template

/-- The text of a template, with placeholders for values. -/
def sql (t : Template) : String := String.join (t.map Piece.sql)

/-- The values of a template, in the order of their placeholders. -/
def binds (t : Template) : List Value := t.filterMap Piece.value?

/-- Templates with a separator between. -/
def joinWith (separator : String) (ts : List Template) : Template :=
  List.intercalate [.text separator] ts

theorem sql_cons (piece : Piece) (t : Template) : sql (piece :: t) = piece.sql ++ sql t := by
  simp [sql]

theorem binds_nil : binds [] = [] := rfl

theorem binds_text_cons (text : String) (t : Template) : binds (.text text :: t) = binds t := rfl

theorem binds_value_cons (v : Value) (t : Template) : binds (.value v :: t) = v :: binds t := rfl

theorem joinWith_singleton (separator : String) (t : Template) : joinWith separator [t] = t :=
  List.intercalate_singleton

theorem joinWith_cons_cons (separator : String) (t u : Template) (ts : List Template) :
    joinWith separator (t :: u :: ts) = t ++ .text separator :: joinWith separator (u :: ts) := by
  unfold joinWith
  rw [List.intercalate_cons_cons, List.append_assoc, List.singleton_append]

theorem sql_append (s t : Template) : sql (s ++ t) = sql s ++ sql t := by
  simp [sql, String.join_append]

theorem binds_append (s t : Template) : binds (s ++ t) = binds s ++ binds t := by
  simp [binds, List.filterMap_append]

end Template

/-- SQL text, its values and how its response is shaped. -/
structure Statement where
  /-- The text; blank text is nothing to run. -/
  sql : String
  /-- The values of the placeholders, in order. -/
  binds : List Value := []
  method : Method := .raw
  /-- What the driver is told beside. -/
  options : Fields Json := []
  context : Option Context := none
  /-- The column whose values are read. -/
  pluck : Option String := none
  /-- A rule that makes the outcome of the response. -/
  output : Option (Response → Outcome) := none

namespace Statement

/-- Whether there is nothing to run. -/
def isEmpty (statement : Statement) : Bool := Text.allBlank statement.sql.toList

/-- A statement without values and rules. -/
def ofSql (sql : String) : Statement := { sql := sql }

/-- A statement of the given method. -/
def ofTemplate (method : Method) (template : Template) : Statement :=
  { sql := template.sql, binds := template.binds, method := method }

end Statement

end SnowflakeSql
