import SnowflakeSql.Capability
import SnowflakeSql.Identifier.Naming
import SnowflakeSql.Query.Basic
import SnowflakeSql.Query.Catalogue

/-!
# Compiling queries

`Query.compile` turns a query into a statement.  Each clause is a template, so every value goes
where its placeholder is.  An insertion becomes a matrix with a column for each name that any
row has, in the order of first appearance; where a row lacks the name the default is inserted.
An insertion without columns has blank SQL, which is nothing to run.
-/

namespace SnowflakeSql

namespace Query

variable (naming : Naming) (query : Query)

/-- The spelling of an identifier of the query. -/
def spell (identifier : String) : String := naming.wrap query.context identifier

/-- The table of the query, which the named statement needs. -/
def requireTable (statement : String) : Except CompileError String :=
  match query.table with
  | some table => .ok table
  | none => .error (.missingTable statement)

/-- A condition. -/
def conditionTemplate : Condition → Template
  | .compare column operator value =>
    [.text (query.spell naming column ++ " " ++ operator ++ " "), .value value]
  | .oneOf _ [] => [.text "1 = 0"]
  | .oneOf column (v :: vs) =>
    .text (query.spell naming column ++ " in (") ::
      (Template.joinWith ", " ((v :: vs).map fun v => [.value v]) ++ [.text ")"])
  | .isNull column negated =>
    [.text (query.spell naming column ++ " is " ++ (if negated then "not " else "") ++ "null")]

/-- All conditions, after a blank; nothing if there are none. -/
def whereTemplate : Template :=
  if query.conditions.isEmpty then []
  else
    .text " where " ::
      Template.joinWith " and " (query.conditions.map (query.conditionTemplate naming))

/-- A column that rows are ordered by. -/
def sortText (term : SortTerm) : String :=
  query.spell naming term.column ++ (if term.descending then " desc" else " asc")

/-- The order of the rows, after a blank; nothing if none is asked for. -/
def orderText : String :=
  if query.sorts.isEmpty then ""
  else " order by " ++ Text.commaJoin (query.sorts.map (query.sortText naming))

/-- How many rows are taken and left out, each after a blank. -/
def windowText (limit : Option Nat) : String :=
  (match limit with
    | some n => " limit " ++ toString n
    | none => "") ++
  (match query.offset with
    | some n => " offset " ++ toString n
    | none => "")

/-- A selection of at most `limit` rows. -/
def selectTemplate (limit : Option Nat) (table : String) : Template :=
  .text ("select " ++ naming.columnList query.context query.columns ++ " from " ++
    query.spell naming table) :: query.whereTemplate naming ++
  [.text (query.orderText naming ++ query.windowText limit)]

/-- The column names that the rows have, in the order of first appearance. -/
def insertColumns : List String := (query.rows.flatMap fun row => row.map Prod.fst).eraseDups

/-- The slot of a column in a row: its first value there, or the default. -/
def insertSlot (row : InsertRow) (column : String) : Template :=
  match row.lookup column with
  | some value => [.value value]
  | none => [.text "DEFAULT"]

/-- The slots of a row between parentheses. -/
def insertTuple (columns : List String) (row : InsertRow) : Template :=
  .text "(" :: (Template.joinWith ", " (columns.map (insertSlot row)) ++ [.text ")"])

/-- An insertion of all rows; blank if there are no columns. -/
def insertTemplate (table : String) : Template :=
  let columns := query.insertColumns
  if columns.isEmpty then []
  else
    .text ("insert into " ++ query.spell naming table ++ " (" ++
      Text.commaJoin (columns.map (query.spell naming)) ++ ") values ") ::
    Template.joinWith ", " (query.rows.map (insertTuple columns))

/-- An assignment of a value to a column. -/
def assignmentTemplate (assignment : String × Value) : Template :=
  [.text (query.spell naming assignment.1 ++ " = "), .value assignment.2]

/-- A change of the rows that meet the conditions. -/
def updateTemplate (table : String) : Template :=
  .text ("update " ++ query.spell naming table ++ " set ") ::
    (Template.joinWith ", " (query.assignments.map (query.assignmentTemplate naming)) ++
      query.whereTemplate naming)

/-- A deletion of the rows that meet the conditions. -/
def deleteTemplate (table : String) : Template :=
  .text ("delete from " ++ query.spell naming table) :: query.whereTemplate naming

/-- The template of a query that is no raw SQL. -/
def template : Except CompileError Template :=
  match query.method with
  | .raw => .ok []
  | .select | .pluck => do
    return query.selectTemplate naming query.limit (← query.requireTable "select")
  | .first => do return query.selectTemplate naming (some 1) (← query.requireTable "select")
  | .insert => do return query.insertTemplate naming (← query.requireTable "insert")
  | .update => do
    let table ← query.requireTable "update"
    if query.assignments.isEmpty then throw (.emptyColumns "update")
    return query.updateTemplate naming table
  | .delete => do return query.deleteTemplate naming (← query.requireTable "delete")
  | .truncate => do
    return [.text ("truncate table " ++ query.spell naming (← query.requireTable "truncate"))]
  | .columnInfo => do
    return Catalogue.lookup "columns" (← query.requireTable "columnInfo") none

/-- The SQL text of the query and its values. -/
def sqlAndBinds : Except CompileError (String × List Value) :=
  match query.method with
  | .raw => .ok (query.rawSql.getD ("", []))
  | _ => do
    let template ← query.template naming
    return (template.sql, template.binds)

/-- The statement of the query. -/
def compile : Except CompileError Statement := do
  if !query.returning.isEmpty then ensureSupported "returning"
  let (sql, binds) ← query.sqlAndBinds naming
  return {
    sql, binds
    method := query.method
    options := query.options
    context := query.context
    pluck := if query.method = .pluck then query.columns.head? else none
    output :=
      if query.method = .columnInfo then some (Catalogue.columnInfo query.columns.head?) else none }

end Query

end SnowflakeSql
