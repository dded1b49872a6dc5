import SnowflakeSql.Capability
import SnowflakeSql.Column.Basic
import SnowflakeSql.Text.Split

/-!
# The text of column types

`ColumnType.standardSql` spells a type in the standard dialect and `ColumnType.sql` in this
one.  The two differ only in the types that the table of adaptations has, and for numbers in
what a precision does: a double with a precision is a decimal.
-/

namespace SnowflakeSql.ColumnType

open Text

/-- A type with precision and scale, 8 and 2 if they are not given. -/
def scaled (name : String) (precision scale : Option Nat) : String :=
  name ++ "(" ++ toString (precision.getD 8) ++ ", " ++ toString (scale.getD 2) ++ ")"

/-- The spelling in the standard dialect. -/
def standardSql : ColumnType → String
  | increments => "int unsigned not null auto_increment primary key"
  | bigIncrements => "bigint unsigned not null auto_increment primary key"
  | integer => "int"
  | bigInteger => "bigint"
  | mediumInteger => "mediumint"
  | smallInteger => "smallint"
  | tinyInteger => "tinyint"
  | float precision scale => scaled "float" precision scale
  | double none _ => "double"
  | double (some precision) scale => scaled "double" (some precision) scale
  | decimal precision scale => scaled "decimal" precision scale
  | string length => "varchar(" ++ toString (length.getD 255) ++ ")"
  | text => "text"
  | boolean => "boolean"
  | date => "date"
  | datetime => "datetime"
  | timestamp => "timestamp"
  | time => "time"
  | binary none => "blob"
  | binary (some length) => "varbinary(" ++ toString length ++ ")"
  | uuid => "char(36)"
  | enum values => "enum(" ++ commaJoin (values.map literal) ++ ")"
  | json => "json"
  | jsonb => "json"
  | specific sql => sql

/-- The adapted spelling of a construct, or the standard spelling of the type. -/
def adaptedSql (construct : String) (type : ColumnType) : String :=
  (fragment? construct).getD type.standardSql

/-- The spelling in this dialect. -/
def sql (type : ColumnType) : String :=
  match type with
  | increments => adaptedSql "increments" type
  | bigIncrements => adaptedSql "bigincrements" type
  | mediumInteger => adaptedSql "mediumint" type
  | decimal none _ => adaptedSql "decimal" type
  | double none _ => adaptedSql "double" type
  | double (some precision) scale => standardSql (decimal (some precision) scale)
  | enum _ => adaptedSql "enu" type
  | json => adaptedSql "json" type
  | jsonb => adaptedSql "jsonb" type
  | other => other.standardSql

theorem sql_decimal (precision : Nat) (scale : Option Nat) :
    sql (decimal (some precision) scale) = standardSql (decimal (some precision) scale) := rfl

theorem sql_double (precision : Nat) (scale : Option Nat) :
    sql (double (some precision) scale) = standardSql (decimal (some precision) scale) := rfl

example : sql json = "variant" := by decide

example : standardSql (enum ["a", "it's"]) = "enum('a', 'it''s')" := by decide +kernel

end SnowflakeSql.ColumnType
