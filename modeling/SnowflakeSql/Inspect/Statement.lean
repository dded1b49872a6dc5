import SnowflakeSql.Inspect.Basic
import SnowflakeSql.Json.Printer
import SnowflakeSql.Statement

/-!
# Inspecting statements

The inspection texts of documents, values, contexts and statements.  Of a rule only whether it
is there is shown.
-/

namespace SnowflakeSql

open Inspect

namespace Json

mutual

/-- The inspection text of a document. -/
def inspect : Json → String
  | .null => "Null"
  | .bool b => apply "Bool" (Inspect.bool b)
  | .int n => apply "Number" (toString n)
  | .float x => apply "Number" (numberStyle.write x)
  | .str s => apply "String" (Inspect.string s)
  | .arr items => "Array [" ++ inspectItems items ++ "]"
  | .obj fields => "Object " ++ braces (inspectFields fields)

/-- The items of an array. -/
def inspectItems : List Json → String
  | [] => ""
  | [item] => inspect item
  | item :: next :: rest => inspect item ++ ", " ++ inspectItems (next :: rest)

/-- The fields of an object. -/
def inspectFields : List (String × Json) → String
  | [] => ""
  | [(key, value)] => Inspect.string key ++ ": " ++ inspect value
  | (key, value) :: next :: rest =>
    Inspect.string key ++ ": " ++ inspect value ++ ", " ++ inspectFields (next :: rest)

end

end Json

/-- The inspection text of a value. -/
def Value.inspect : Value → String
  | null => "Null"
  | bool b => apply "Bool" (Inspect.bool b)
  | int n => apply "Int" (toString n.toInt)
  | float x => apply "Float" (Inspect.numberStyle.write x)
  | text s => apply "Text" (Inspect.string s)
  | blob bytes => apply "Blob" (Inspect.list (fun b => toString b.toNat) bytes)
  | date d => apply "Date" d.text
  | timestamp t => apply "Timestamp" (t.textWith "T")
  | json j => apply "Json" j.inspect

/-- The inspection text of a method. -/
def Method.inspect : Method → String
  | raw => "Raw"
  | select => "Select"
  | first => "First"
  | pluck => "Pluck"
  | insert => "Insert"
  | update => "Update"
  | delete => "Delete"
  | truncate => "Truncate"
  | columnInfo => "ColumnInfo"

/-- The inspection text of a context. -/
def Context.inspect (context : Context) : String :=
  record "QueryContext"
    [("data", context.data.inspect), ("on_statement", Inspect.bool context.announces)] true

/-- The inspection text of a statement. -/
def Statement.inspect (statement : Statement) : String :=
  record "CompiledQuery" [
    ("sql", Inspect.string statement.sql),
    ("bindings", Inspect.list Value.inspect statement.binds),
    ("method", statement.method.inspect),
    ("options", braces (Json.inspectFields statement.options)),
    ("context", Inspect.option Context.inspect statement.context),
    ("pluck", Inspect.option Inspect.string statement.pluck),
    ("output", Inspect.bool statement.output.isSome)] true

end SnowflakeSql
