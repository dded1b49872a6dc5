import SnowflakeSql.Column.Definition
import SnowflakeSql.Identifier.Stored
import SnowflakeSql.Report
import SnowflakeSql.Table.Basic

/-!
# Compiling table changes

A creation is one statement with the columns and then the keys and unique constraints; an
alteration is one statement for each column and each constraint.  Columns that are dropped or
renamed and comments are statements of their own in both.  Indexes are warned of and give no
statement.  A constraint without a name is given one made of the table, the columns and what
it is.
-/

namespace SnowflakeSql

open Text

/-- A constraint on the columns of a table. -/
inductive ConstraintKind where
  | primaryKey
  | unique
  deriving DecidableEq, Repr

/-- The words for a constraint. -/
def ConstraintKind.sql : ConstraintKind → String
  | primaryKey => "primary key"
  | unique => "unique"

namespace TableChange

variable (naming : Naming) (schema : Option String) (change : TableChange)

/-- The spelling of an identifier in the definition of a table. -/
def spell (identifier : String) : String := naming.wrap none identifier

/-- The table, in its schema. -/
def tableText : String := spell naming (qualify schema change.name)

/-- The table name with underscores for dots and hyphens. -/
def nameBase : String :=
  String.ofList (change.name.toList.map fun c => if c = '.' ∨ c = '-' then '_' else c)

/-- The name of a constraint that was not given one. -/
def generatedName (kind : ConstraintKind) (columns : List String) : String :=
  lowerString <| match kind with
    | .primaryKey => change.nameBase ++ "_pkey"
    | .unique => change.nameBase ++ "_" ++ "_".intercalate columns ++ "_unique"

/-- The definition of a constraint. -/
def constraintText (kind : ConstraintKind) (columns : List String) (name : Option String) :
    String :=
  "constraint " ++ spell naming (name.getD (change.generatedName kind columns)) ++ " " ++
    kind.sql ++ " (" ++ naming.columnList none columns ++ ")"

/-- The constraint that a command asks for. -/
def constraint? : TableCommand → Option String
  | .primary columns name => some (change.constraintText naming .primaryKey columns name)
  | .unique columns name => some (change.constraintText naming .unique columns name)
  | _ => none

/-- What stands between the parentheses of a creation. -/
def definitions : List String :=
  change.columns.map (·.sql (spell naming)) ++ change.commands.filterMap (change.constraint? naming)

/-- The statement that creates the table. -/
def createText : String :=
  "create table " ++ (if change.action = .createIfNotExists then "if not exists " else "") ++
    change.tableText naming schema ++ " (" ++ commaJoin (change.definitions naming) ++ ")"

/-- The statement that adds a column. -/
def addColumnText (column : Column) : String :=
  "alter table " ++ change.tableText naming schema ++ " add column " ++ column.sql (spell naming)

/-- The statement of a command, if it has one of its own. -/
def commandText? (command : TableCommand) : Option String :=
  let table := change.tableText naming schema
  match command with
  | .dropColumns columns =>
    some ("alter table " ++ table ++ " drop column " ++ commaJoin (columns.map (spell naming)))
  | .renameColumn source target =>
    some ("alter table " ++ table ++ " rename column " ++ spell naming source ++ " to " ++
      spell naming target)
  | .comment text => some ("comment on table " ++ table ++ " is " ++ literal text)
  | command =>
    if change.action.creates then none
    else (change.constraint? naming command).map fun text =>
      "alter table " ++ table ++ " add " ++ text

/-- The warnings of a command. -/
def commandWarnings : TableCommand → List Warning
  | .index _ _ => warningsOf "index"
  | .dropIndex _ _ => warningsOf "dropIndex"
  | _ => []

/-- The statements of the change. -/
def statements : List String :=
  (if change.action.creates then [change.createText naming schema]
    else change.columns.map (change.addColumnText naming schema)) ++
  change.commands.filterMap (change.commandText? naming schema)

/-- The warnings of the change: one if any column asks for an index, then those of the
commands. -/
def warnings : List Warning :=
  (if change.columns.any (·.index.isPresent) then warningsOf "index" else []) ++
    change.commands.flatMap commandWarnings

/-- The statements of the change with its warnings; a creation needs a column. -/
def compile : Report (List String) :=
  if change.action.creates && change.columns.isEmpty then
    { result := .error (.emptyColumns "create table") }
  else { result := .ok (change.statements naming schema), warnings := change.warnings }

theorem compile_of_lacksColumns (hcreates : change.action.creates = true)
    (hcolumns : change.columns = []) :
    change.compile naming schema = { result := .error (.emptyColumns "create table") } := by
  simp [compile, hcreates, hcolumns]

/-- A change that is no creation without columns compiles. -/
theorem compile_eq_statements (h : change.action.creates = true → change.columns ≠ []) :
    change.compile naming schema =
      { result := .ok (change.statements naming schema), warnings := change.warnings } := by
  refine if_neg fun hempty => ?_
  simp only [Bool.and_eq_true, List.isEmpty_iff] at hempty
  exact h hempty.1 hempty.2

end TableChange

end SnowflakeSql
