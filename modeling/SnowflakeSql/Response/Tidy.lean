import SnowflakeSql.Response.Basic
import SnowflakeSql.Context
import SnowflakeSql.Text.Casing

/-!
# Tidying outcomes

The backend reports column names in capitals.  `Outcome.tidy` gives the rows of an outcome
lower-case keys: the rows of a response, a row set or a single row, the items of an array and
the items of an array under `rows` in an object.  Of two keys that become equal the later one
counts.  What stands under `rows` in an object and is no array is dropped.
-/

namespace SnowflakeSql

/-- The row with its keys in lower case; other documents stay. -/
def Json.lowerKeys : Json → Json
  | .obj fields => .ofPairs (fields.map fun f => (Text.lowerString f.1, f.2))
  | other => other

/-- The object with lower-case keys in the rows under `rows`. -/
def tidyFields (fields : Fields Json) : Fields Json :=
  match fields.get? "rows" with
  | some (.arr rows) => fields.insert "rows" (.arr (rows.map Json.lowerKeys))
  | _ => fields.erase "rows"

namespace Outcome

/-- The outcome with lower-case keys in its rows. -/
def tidy : Outcome → Outcome
  | raw response => raw { response with rows := response.rows.map (·.map Json.lowerKeys) }
  | rows items => rows (items.map Json.lowerKeys)
  | row item => row item.lowerKeys
  | value (.arr items) => value (.arr (items.map Json.lowerKeys))
  | value (.obj fields) => value (.obj (tidyFields fields))
  | other => other

/-- A caller's own rule for the last step. -/
abbrev Rule := Outcome → Option Context → Outcome

/-- The last step: the caller's rule if there is one, and otherwise tidying. -/
def finish (rule : Option Rule) (outcome : Outcome) (context : Option Context) : Outcome :=
  match rule with
  | some rule => rule outcome context
  | none => outcome.tidy

end Outcome

end SnowflakeSql
