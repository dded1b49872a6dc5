import SnowflakeSql.Identifier.Stored
import SnowflakeSql.Json.Lookup
import SnowflakeSql.Statement

/-!
# Asking the catalogue

The catalogue has a view of tables and a view of columns.  `Catalogue.lookup` asks a view for a
table and perhaps for a column, by the names as they are stored; without a schema the current
one is meant.  `Catalogue.found` makes of the response whether anything was found, and
`Catalogue.columnMap` how each column is declared, under its name in lower case.
-/

namespace SnowflakeSql.Catalogue

/-- A condition that a catalogue column has the stored form of a name. -/
def nameIs (column name : String) : Template :=
  [.text (column ++ " = "), .value (.text (storedName name))]

/-- The entries of a view for a table, which may be qualified, and a column. -/
def lookup (view name : String) (column : Option String) : Template :=
  let (schema, table) := splitQualified name
  .text ("select * from information_schema." ++ view ++ " where ") :: nameIs "table_name" table ++
    (match column with
      | some column => .text " and " :: nameIs "column_name" column
      | none => []) ++
    .text " and " ::
    (match schema with
      | some schema => nameIs "table_schema" schema
      | none => [.text "table_schema = current_schema()"])

/-- Whether a response has any rows. -/
def found (response : Response) : Outcome :=
  .value (.bool !(response.rows.getD []).isEmpty)

/-- The text of a field of a catalogue row. -/
def fieldText? (row : Json) (key : String) : Option String := (row.getLoose? key).bind Json.str?

/-- How a catalogue row declares its column. -/
def declaration (row : Json) : Json :=
  .ofPairs [
    ("type", .ofString? ((fieldText? row "DATA_TYPE").map Text.lowerString)),
    ("maxLength", (row.getLoose? "CHARACTER_MAXIMUM_LENGTH").getD .null),
    ("nullable", .bool (fieldText? row "IS_NULLABLE" == some "YES")),
    ("defaultValue", (row.getLoose? "COLUMN_DEFAULT").getD .null)]

/-- The declarations under the names of their columns; rows without a name are left out. -/
def columnMap (rows : List Json) : Fields Json :=
  .ofList (rows.filterMap fun row =>
    (fieldText? row "COLUMN_NAME").map fun name => (Text.lowerString name, declaration row))

/-- The declarations of all columns, or of the one column, null if it is not there. -/
def columnInfo (column : Option String) (response : Response) : Outcome :=
  let columns := columnMap (response.rows.getD [])
  match column with
  | some column => .value ((columns.get? (Text.lowerString column)).getD .null)
  | none => .value (.obj columns)

end SnowflakeSql.Catalogue
