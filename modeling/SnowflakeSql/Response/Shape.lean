import SnowflakeSql.Json.Lookup
import SnowflakeSql.Statement

/-!
# Shaping responses

`Statement.shape` makes the outcome of a response by what the statement does: rows for a
selection, the first row, the values of one column, the number of changed rows.  The backend
reports changed rows in a field of its own for each method; the numbers are added up, and the
sum stays within 64 bits.  A rule that the statement brings with it goes before all that.
-/

namespace SnowflakeSql

/-- The field of a row that has the number of changed rows. -/
def Method.affectedRowsField? : Method → Option String
  | .insert => some "number of rows inserted"
  | .update => some "number of rows updated"
  | .delete => some "number of rows deleted"
  | _ => none

/-- The integer of 64 bits nearest to a sum. -/
def saturate (n : Int) : Int := max Json.minInt64 (min Json.maxInt64 n)

/-- The numbers of changed rows that the rows report under the field. -/
def reportedCounts (field : String) (rows : List Json) : List Int :=
  rows.filterMap fun row => (row.get? field).bind Json.int64?

/-- The sum of counts, kept within 64 bits after each addition; none if there are none. -/
def totalCount? : List Int → Option Int
  | [] => none
  | n :: ns => some (ns.foldl (fun sum count => saturate (sum + count)) n)

/-- The number of changed rows that a response reports, if it reports any. -/
def affectedRows? (method : Method) (response : Response) : Option Int := do
  totalCount? (reportedCounts (← method.affectedRowsField?) (← response.rows))

/-- The value of a row under a column name, null if there is none. -/
def pluckValue (column : String) (row : Json) : Json := (row.getLoose? column).getD .null

namespace Statement

/-- The outcome of a response by the method of the statement. -/
def shapeByMethod (statement : Statement) (response : Response) : Outcome :=
  match statement.method with
  | .raw => .raw response
  | .select => .rows (response.rows.getD [])
  | .first => .row ((response.rows.bind List.head?).getD .null)
  | .pluck => .rows ((response.rows.getD []).map (pluckValue (statement.pluck.getD "")))
  | .insert | .update | .delete =>
    match affectedRows? statement.method response with
    | some count => .count count
    | none => .raw response
  | .truncate | .columnInfo =>
    match response.rows, response.statement with
    | some rows, some _ => .rows rows
    | _, _ => .raw response

/-- The outcome of a statement, where no response means that there was nothing to run. -/
def shape (statement : Statement) (response : Option Response) : Outcome :=
  match statement.output, response with
  | some output, response => output (response.getD {})
  | none, none => .empty
  | none, some response => statement.shapeByMethod response

theorem shape_of_output {statement : Statement} {output : Response → Outcome}
    (h : statement.output = some output) (response : Option Response) :
    statement.shape response = output (response.getD {}) := by simp [shape, h]

end Statement

end SnowflakeSql
