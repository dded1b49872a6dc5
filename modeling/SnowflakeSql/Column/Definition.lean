import SnowflakeSql.Column.TypeText
import SnowflakeSql.Identifier.Naming

/-!
# Column definitions

A column definition is the spelled name, the type, and the modifiers that were asked for, in a
fixed order.  `Column.standardSql` takes the type from the standard dialect and `Column.sql`
from this one; name and modifiers are the same in both.
-/

namespace SnowflakeSql.Column

open Text

/-- The modifiers after the type: nullability, default, unique, primary key, comment and
collation.  A counted key has its primary key in the type already. -/
def modifiers (column : Column) : List String :=
  (match column.nullable with
    | some false => ["not null"]
    | some true => ["null"]
    | none => []) ++
  (match column.default with
    | some default => ["default " ++ default.sql]
    | none => []) ++
  (if column.unique then ["unique"] else []) ++
  (if column.primary.isPresent && !column.type.isCounted then ["primary key"] else []) ++
  (match column.comment with
    | some comment => ["comment " ++ literal comment]
    | none => []) ++
  (match column.collation with
    | some collation => ["collate '" ++ collation ++ "'"]
    | none => [])

/-- A definition with the given type text. -/
def definition (typeText : ColumnType → String) (spell : String → String) (column : Column) :
    String :=
  " ".intercalate (spell column.name :: typeText column.type :: column.modifiers)

/-- The definition in the standard dialect, where `spell` spells the name. -/
def standardSql (spell : String → String) (column : Column) : String :=
  column.definition ColumnType.standardSql spell

/-- The definition in this dialect, where `spell` spells the name. -/
def sql (spell : String → String) (column : Column) : String :=
  column.definition ColumnType.sql spell

end SnowflakeSql.Column
