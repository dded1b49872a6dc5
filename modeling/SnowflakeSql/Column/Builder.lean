import SnowflakeSql.Capability
import SnowflakeSql.Column.Basic

/-!
# Building columns

A column is described by a sequence of calls, each a `ColumnCall`.  The two builders differ in
two calls: the standard builder records a request for a primary key or an index, while the
builder of the dialect makes the column not null for a key and only warns of an index.
`ColumnCall.build` runs a sequence and gives the column with the warnings in order.
-/

namespace SnowflakeSql

/-- One call on a column that is being described. -/
inductive ColumnCall where
  | notNullable
  | nullable
  | defaultTo (value : Value)
  | defaultRaw (sql : String)
  | unique
  | primary (name : Option String)
  | index (name : Option String)
  | comment (text : String)
  | collate (collation : String)

/-- Whose builder describes a column. -/
inductive ColumnBuilder where
  | standard
  | snowflake
  deriving DecidableEq, Repr

namespace ColumnBuilder

/-- A request for a primary key. -/
def primary (builder : ColumnBuilder) (name : Option String) (column : Column) : Column :=
  match builder, adaptation? "primary" with
  | snowflake, some .notNullable => { column with nullable := some false }
  | _, _ => { column with primary := .present name }

/-- A request for an index. -/
def index (builder : ColumnBuilder) (name : Option String) (column : Column) :
    Column × List Warning :=
  match builder, warningsOf "index" with
  | snowflake, w :: ws => (column, w :: ws)
  | _, _ => ({ column with index := .present name }, [])

/-- The column after one call, and the warnings of the call. -/
def apply (builder : ColumnBuilder) (column : Column) : ColumnCall → Column × List Warning
  | .notNullable => ({ column with nullable := some false }, [])
  | .nullable => ({ column with nullable := some true }, [])
  | .defaultTo value => ({ column with default := some (.value value) }, [])
  | .defaultRaw sql => ({ column with default := some (.expression sql) }, [])
  | .unique => ({ column with unique := true }, [])
  | .primary name => (builder.primary name column, [])
  | .index name => builder.index name column
  | .comment text => ({ column with comment := some text }, [])
  | .collate collation => ({ column with collation := some collation }, [])

/-- The column after a sequence of calls, and the warnings in order. -/
def applyAll (builder : ColumnBuilder) (column : Column) : List ColumnCall → Column × List Warning
  | [] => (column, [])
  | call :: calls =>
    let (column, warnings) := builder.apply column call
    let (column, later) := applyAll builder column calls
    (column, warnings ++ later)

/-- The column of the name and type that a sequence of calls describes. -/
def build (builder : ColumnBuilder) (name : String) (type : ColumnType)
    (calls : List ColumnCall) : Column × List Warning :=
  builder.applyAll { name := name, type := type } calls

theorem applyAll_append (builder : ColumnBuilder) (column : Column) (xs ys : List ColumnCall) :
    builder.applyAll column (xs ++ ys) =
      let (middle, warnings) := builder.applyAll column xs
      ((builder.applyAll middle ys).1, warnings ++ (builder.applyAll middle ys).2) := by
  induction xs generalizing column with
  | nil => rfl
  | cons call xs ih => simp [applyAll, ih, List.append_assoc]

end ColumnBuilder

end SnowflakeSql
