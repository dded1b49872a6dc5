import SnowflakeSql.Json.Basic
import SnowflakeSql.Text.Casing

/-!
# Reading fields whatever the case of their keys

`Fields.getLoose?` looks for the key itself, and if there is none for the first key that is
equal to it but for the case of the letters A to Z.  `Json.getLoose?` does so in a row.
-/

namespace SnowflakeSql

/-- The value under the key, or under the first key equal to it but for ASCII case. -/
def Fields.getLoose? {α : Type} (fields : Fields α) (key : String) : Option α :=
  match fields.get? key with
  | some value => some value
  | none => (fields.find? fun f => Text.equalIgnoringCase f.1 key).map Prod.snd

/-- The value of a row under the key, or under the first key equal to it but for ASCII case. -/
def Json.getLoose? (row : Json) (key : String) : Option Json :=
  match row with
  | .obj fields => Fields.getLoose? fields key
  | _ => none

theorem Fields.getLoose?_of_get? {α : Type} {fields : Fields α} {key : String} {value : α}
    (h : fields.get? key = some value) : fields.getLoose? key = some value := by
  simp [getLoose?, h]

end SnowflakeSql
