import SnowflakeSql.Column.Basic

/-!
# Table changes

A `TableChange` creates or alters one table: columns to create or to add, and commands in call
order.
-/

namespace SnowflakeSql

/-- What becomes of the table. -/
inductive TableAction where
  | create
  | createIfNotExists
  | alter
  deriving DecidableEq, Repr

/-- Whether the action creates the table. -/
def TableAction.creates : TableAction → Bool
  | create | createIfNotExists => true
  | alter => false

/-- A command on a table that is no column. -/
inductive TableCommand where
  | dropColumns (columns : List String)
  | renameColumn (source target : String)
  | primary (columns : List String) (name : Option String)
  | unique (columns : List String) (name : Option String)
  | index (columns : List String) (name : Option String)
  | dropIndex (columns : List String) (name : Option String)
  | comment (text : String)
  deriving DecidableEq, Repr

/-- The creation or alteration of one table. -/
structure TableChange where
  name : String
  action : TableAction
  columns : List Column := []
  commands : List TableCommand := []

end SnowflakeSql
