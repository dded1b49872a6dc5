import SnowflakeSql.Query.Catalogue
import SnowflakeSql.Table.Compile

/-!
# Schema scripts

A `SchemaScript` is a sequence of commands on tables and schemas, run in one schema if it names
one.  `SchemaScript.compile` gives their statements in order.  Each command but a table change
has exactly one statement; whether a table or a column exists is asked of the catalogue.
-/

namespace SnowflakeSql

/-- A command on tables or schemas. -/
inductive SchemaCommand where
  | table (change : TableChange)
  | dropTable (table : String)
  | dropTableIfExists (table : String)
  | renameTable (source target : String)
  | hasTable (table : String)
  | hasColumn (table column : String)
  | createSchema (schema : String)
  | createSchemaIfNotExists (schema : String)
  | dropSchema (schema : String)
  | dropSchemaIfExists (schema : String)
  /-- SQL text as given. -/
  | raw (sql : String)

/-- A sequence of commands, run in a schema if it names one. -/
structure SchemaScript where
  schema : Option String := none
  commands : List SchemaCommand := []

namespace SchemaScript

variable (naming : Naming) (schema : Option String)

/-- The question whether the catalogue has a table or one of its columns. -/
def existsStatement (view table : String) (column : Option String) : Statement :=
  { Statement.ofTemplate .select (Catalogue.lookup view (qualify schema table) column) with
    output := some Catalogue.found }

/-- The spelling of a table, in the schema of the script. -/
def tableText (table : String) : String := naming.wrap none (qualify schema table)

/-- The statement of a command that is no table change. -/
def commandStatement : SchemaCommand → Option Statement
  | .table _ => none
  | .dropTable table => some (.ofSql ("drop table " ++ tableText naming schema table))
  | .dropTableIfExists table =>
    some (.ofSql ("drop table if exists " ++ tableText naming schema table))
  | .renameTable source target =>
    some (.ofSql ("alter table " ++ tableText naming schema source ++ " rename to " ++
      tableText naming schema target))
  | .hasTable table => some (existsStatement schema "tables" table none)
  | .hasColumn table column => some (existsStatement schema "columns" table (some column))
  | .createSchema name => some (.ofSql ("create schema " ++ naming.wrap none name))
  | .createSchemaIfNotExists name =>
    some (.ofSql ("create schema if not exists " ++ naming.wrap none name))
  | .dropSchema name => some (.ofSql ("drop schema " ++ naming.wrap none name))
  | .dropSchemaIfExists name =>
    some (.ofSql ("drop schema if exists " ++ naming.wrap none name))
  | .raw sql => some (.ofSql sql)

/-- The statements of a command. -/
def compileCommand (command : SchemaCommand) : Report (List Statement) :=
  match command with
  | .table change => (change.compile naming schema).map (·.map Statement.ofSql)
  | command => .ok (commandStatement naming schema command).toList

/-- The statements of a script, up to the first command without SQL. -/
def compile (naming : Naming) (script : SchemaScript) : Report (List Statement) :=
  .collect (compileCommand naming script.schema) script.commands

theorem commandStatement_isSome (command : SchemaCommand) :
    (commandStatement naming schema command).isSome =
      !(match command with | .table _ => true | _ => false) := by
  cases command <;> rfl

end SchemaScript

end SnowflakeSql
