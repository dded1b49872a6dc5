import SnowflakeSql.Proofs.Text.Lowercase
import SnowflakeSql.Proofs.Text.Pieces
import SnowflakeSql.Table.Compile

/-!
# Names of constraints

The name that a unique constraint is given tells its columns as far as their pieces go: each column
in lower case, cut at its underscores (`namePieces`).  Underscores also stand between the columns,
so the name does not tell where one column ends.  Two constraints of a table have the same name
exactly if the pieces of their columns are the same (`generatedName_unique_eq_iff`).
-/

namespace SnowflakeSql

open Text

/-- The columns in lower case, cut at their underscores.  No columns are one piece without
characters, as one column without a name is. -/
def namePieces (columns : List String) : List (List Char) :=
  if columns.isEmpty then [[]] else columns.flatMap fun column => splitOn '_' (lower column.toList)

/-- The columns in lower case with underscores between. -/
def joinedLower (columns : List String) : List Char :=
  List.intercalate ['_'] (columns.map fun column => lower column.toList)

theorem splitOn_joinedLower (columns : List String) :
    splitOn '_' (joinedLower columns) = namePieces columns := by
  cases columns with
  | nil => rfl
  | cons column columns =>
    unfold joinedLower namePieces
    rw [splitOn_intercalate (by simp), List.flatMap_map]
    rfl

namespace TableChange

variable (change : TableChange)

theorem toList_generatedName_unique (columns : List String) :
    (change.generatedName .unique columns).toList =
      lower change.nameBase.toList ++ '_' :: (joinedLower columns ++ '_' :: "unique".toList) := by
  have htext : (change.nameBase ++ "_" ++ "_".intercalate columns ++ "_unique").toList =
      change.nameBase.toList ++ '_' ::
        (List.intercalate ['_'] (columns.map String.toList) ++ '_' :: "unique".toList) := by
    simp [String.toList_intercalate]
  have hsuffix : lower "unique".toList = "unique".toList := by decide +kernel
  show (lowerString (change.nameBase ++ "_" ++ "_".intercalate columns ++ "_unique")).toList = _
  unfold lowerString
  rw [String.toList_ofList, htext, divides_underscore.lower_append,
    divides_underscore.lower_append, divides_underscore.lower_intercalate, hsuffix, List.map_map]
  rfl

/-- Two unique constraints of a table are given the same name exactly if their columns have the
same pieces. -/
theorem generatedName_unique_eq_iff (columns columns' : List String) :
    change.generatedName .unique columns = change.generatedName .unique columns' ↔
      namePieces columns = namePieces columns' := by
  rw [← splitOn_joinedLower, ← splitOn_joinedLower, splitOn_inj, ← String.toList_inj,
    toList_generatedName_unique, toList_generatedName_unique]
  simp

/-- Two unique constraints on different columns with the same pieces. -/
def ambiguousNames : TableChange where
  name := "t"
  action := .alter
  commands := [.unique ["a", "b_c"] none, .unique ["a_b", "c"] none]

/-- Columns that differ in lower case can have the same pieces, and then one name is given to two
constraints of a table. -/
theorem generatedName_ambiguousNames :
    ["a", "b_c"].map lowerString ≠ ["a_b", "c"].map lowerString ∧
    ambiguousNames.generatedName .unique ["a", "b_c"] = "t_a_b_c_unique" ∧
    ambiguousNames.generatedName .unique ["a_b", "c"] = "t_a_b_c_unique" ∧
    (ambiguousNames.compile .folded none).result = .ok [
      "alter table \"T\" add constraint \"T_A_B_C_UNIQUE\" unique (\"A\", \"B_C\")",
      "alter table \"T\" add constraint \"T_A_B_C_UNIQUE\" unique (\"A_B\", \"C\")"] := by
  refine ⟨by decide +kernel, by decide +kernel, by decide +kernel, ?_⟩
  rw [ambiguousNames.compile_eq_statements .folded none nofun]
  exact congrArg Except.ok (by decide +kernel)

end TableChange

end SnowflakeSql
