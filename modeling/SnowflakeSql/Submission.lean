import SnowflakeSql.Statement

/-!
# Submissions

A `Submission` is what the driver gets of a statement: text, bound documents and options.
A buffered one has no options.  A streamed one has the options of the statement, except the
one that says whether rows come as a stream; it is a flag of its own, and is on unless that
option is a truth value that turns it off.
-/

namespace SnowflakeSql

/-- What the driver gets of a statement. -/
structure Submission where
  sqlText : String
  binds : List Json
  streamResult : Bool
  options : Fields Json

namespace Submission

/-- The option that turns the streaming of rows on or off. -/
def streamOption : String := "streamResult"

/-- The submission for a response as a whole. -/
def buffered (statement : Statement) : Submission where
  sqlText := statement.sql
  binds := statement.binds.map Value.bind
  streamResult := false
  options := []

/-- The submission for rows one by one. -/
def streaming (statement : Statement) : Submission where
  sqlText := statement.sql
  binds := statement.binds.map Value.bind
  streamResult := ((statement.options.get? streamOption).bind Json.bool?).getD true
  options := statement.options.erase streamOption

theorem buffered_sqlText (statement : Statement) :
    (buffered statement).sqlText = (streaming statement).sqlText := rfl

theorem buffered_binds (statement : Statement) :
    (buffered statement).binds = (streaming statement).binds := rfl

end Submission

end SnowflakeSql
