import SnowflakeSql.Text.Blank
import SnowflakeSql.Text.Casing
import SnowflakeSql.Text.Quoted
import SnowflakeSql.Text.Split

/-!
# Names as the catalogue has them

The backend's catalogue lists a name that was not quoted in capitals, and a quoted one without
its quotes (`storedName`).  A table may be given with its schema before the last dot
(`splitQualified`), and `qualify` puts a schema before a table that has none.
-/

namespace SnowflakeSql

open Text

/-- The body of a text that begins and ends with a quote. -/
def unquoted? : List Char → Option (List Char)
  | '"' :: cs => if cs.getLast? = some '"' then some cs.dropLast else none
  | _ => none

/-- The name as the catalogue has it, without the blanks around it. -/
def storedChars (identifier : List Char) : List Char :=
  match unquoted? (trim identifier) with
  | some body => halve '"' body
  | none => upper (trim identifier)

/-- The name as the catalogue has it. -/
def storedName (identifier : String) : String := String.ofList (storedChars identifier.toList)

/-- The schema, if there is one, and the table of a qualified name. -/
def splitQualified (name : String) : Option String × String :=
  match splitLast? '.' name.toList with
  | some (schema, table) => (some (String.ofList schema), String.ofList table)
  | none => (none, name)

/-- The table with the schema before it, unless it has a dot already. -/
def qualify (schema : Option String) (table : String) : String :=
  match schema with
  | some schema => if '.' ∈ table.toList then table else schema ++ "." ++ table
  | none => table

theorem qualify_none (table : String) : qualify none table = table := rfl

example : storedName "\"Mixed\"\"Case\"" = "Mixed\"Case" := rfl

/-- A quote alone is no quoted name. -/
example : storedName " \" " = "\"" := rfl

example : splitQualified "a.b.c" = (some "a.b", "c") := rfl

end SnowflakeSql
