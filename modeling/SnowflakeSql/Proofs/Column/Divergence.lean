import Mathlib.Data.String.Basic
import SnowflakeSql.Column.Definition

/-!
# Where the two dialects differ

A column definition is the spelled name, the type and the modifiers, each after a blank
(`Column.definition_eq`).  The dialects take their own texts for the type and have all else in
common, so their definitions of a column are the same exactly if they spell its type in the same
way.  They do for all types but the ones that this dialect adapts (`ColumnType.isAdapted`).
`Column.DiffersInType` says so of one column, and `differsInType` of every column.
-/

namespace SnowflakeSql

open Text

namespace ColumnType

/-- Whether the dialect has a spelling of its own for the type.  Of decimals these are the ones
without a precision, and of doubles the ones with a precision. -/
def isAdapted : ColumnType → Bool
  | increments | bigIncrements | mediumInteger | enum _ | json | jsonb => true
  | decimal precision _ => precision.isNone
  | double precision _ => precision.isSome
  | _ => false

theorem sql_of_not_isAdapted {type : ColumnType} (h : type.isAdapted = false) :
    type.sql = type.standardSql := by
  cases type with
  | increments | bigIncrements | mediumInteger | enum | json | jsonb => cases h
  | decimal precision scale =>
    cases precision with
    | none => cases h
    | some precision => exact sql_decimal precision scale
  | double precision scale =>
    cases precision with
    | none => rfl
    | some precision => cases h
  | _ => rfl

theorem sql_ne_of_isAdapted {type : ColumnType} (h : type.isAdapted = true) :
    type.sql ≠ type.standardSql := by
  cases type with
  | increments | bigIncrements | mediumInteger | json | jsonb => decide
  | enum values =>
    show "varchar" ≠ "enum(" ++ _ ++ ")"
    simp [← String.toList_inj]
  | decimal precision scale =>
    cases precision with
    | none =>
      show "decimal" ≠ scaled "decimal" none scale
      simp [← String.toList_inj, scaled]
    | some precision => cases h
  | double precision scale =>
    cases precision with
    | none => cases h
    | some precision =>
      show scaled "decimal" (some precision) scale ≠ scaled "double" (some precision) scale
      simp [← String.toList_inj, scaled]
  | _ => cases h

theorem sql_eq_standardSql_iff (type : ColumnType) :
    type.sql = type.standardSql ↔ type.isAdapted = false := by
  refine ⟨fun heq => ?_, sql_of_not_isAdapted⟩
  by_contra hadapted
  exact sql_ne_of_isAdapted (Bool.eq_true_of_not_eq_false hadapted) heq

end ColumnType

namespace Column

/-- The modifiers as they stand behind the type, each after a blank. -/
def modifierText (column : Column) : String := String.join (column.modifiers.map (" " ++ ·))

theorem definition_eq (typeText : ColumnType → String) (spell : String → String)
    (column : Column) : column.definition typeText spell =
      spell column.name ++ " " ++ typeText column.type ++ column.modifierText := by
  unfold definition modifierText
  rw [intercalate_cons, List.map_cons, String.join_cons]
  simp only [String.append_assoc]

/-- The definitions of a column in the two dialects, where `spell` spells its name, differ in the
type alone, and only if the type is adapted. -/
structure DiffersInType (spell : String → String) (column : Column) : Prop where
  standard : column.standardSql spell =
    spell column.name ++ " " ++ column.type.standardSql ++ column.modifierText
  adapted : column.sql spell =
    spell column.name ++ " " ++ column.type.sql ++ column.modifierText
  types : column.type.sql = column.type.standardSql ↔ column.type.isAdapted = false
  definitions : column.sql spell = column.standardSql spell ↔ column.type.isAdapted = false

end Column

/-- Every column is defined in both dialects by the same name and modifiers and, unless its type is
adapted, by the same type.  With a precision, doubles and decimals are the standard decimals. -/
theorem differsInType :
    (∀ (spell : String → String) (column : Column), column.DiffersInType spell) ∧
    ∀ (precision : Nat) (scale : Option Nat),
      (ColumnType.double (some precision) scale).sql =
        (ColumnType.decimal (some precision) scale).standardSql ∧
      (ColumnType.decimal (some precision) scale).sql =
        (ColumnType.decimal (some precision) scale).standardSql := by
  refine ⟨fun spell column => ?_, fun precision scale =>
    ⟨ColumnType.sql_double precision scale, ColumnType.sql_decimal precision scale⟩⟩
  have hstandard := column.definition_eq ColumnType.standardSql spell
  have hadapted := column.definition_eq ColumnType.sql spell
  refine ⟨hstandard, hadapted, column.type.sql_eq_standardSql_iff, ?_⟩
  rw [← column.type.sql_eq_standardSql_iff]
  show column.definition _ spell = column.definition _ spell ↔ _
  rw [hstandard, hadapted, String.append_left_inj, String.append_right_inj]

end SnowflakeSql
