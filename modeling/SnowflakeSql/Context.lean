import SnowflakeSql.Json.Basic

/-!
# Caller contexts

A `Context` travels with a query from its description to its response.  Its data are for the
caller's own naming and response rules, and `announces` says whether the caller wants to be
told when the statement starts to run.
-/

namespace SnowflakeSql

/-- What a caller attaches to a query. -/
structure Context where
  data : Json := .null
  announces : Bool := false

end SnowflakeSql
