import SnowflakeSql.Json.Basic

/-!
# Responses and outcomes

A `Response` is what the backend gives for a statement: rows, if there are any, and the
statement they belong to.  An `Outcome` is what the caller gets in the end.
-/

namespace SnowflakeSql

/-- A statement as the backend knows it. -/
structure StatementInfo where
  queryId : String
  sqlText : String
  deriving DecidableEq, Repr, Inhabited

/-- What the backend gives for a statement. -/
structure Response where
  rows : Option (List Json) := none
  statement : Option StatementInfo := none

/-- What the caller of a statement gets. -/
inductive Outcome where
  /-- Nothing was run. -/
  | empty
  /-- The response as it came. -/
  | raw (response : Response)
  | rows (rows : List Json)
  /-- One row, or null if there was none. -/
  | row (row : Json)
  /-- How many rows were changed. -/
  | count (count : Int)
  /-- What a rule of the statement made of the response. -/
  | value (value : Json)

/-- The rows that an outcome carries. -/
def Outcome.rows? : Outcome → Option (List Json)
  | raw response => response.rows
  | rows items => some items
  | empty | row _ | count _ | value _ => none

end SnowflakeSql
