import Mathlib.Data.List.Forall2
import SnowflakeSql.Proofs.Response.Tidied

/-!
# Rows with lower-case keys

`Outcome.Tidied` says what the last step makes of an outcome without a rule of the caller's own:
every object among its rows, wherever the outcome has rows, gets lower-case keys (`LoweredRow`),
and nothing is said or done to the values, to rows that are no objects, to their number and order,
and to what is beside them.  Keys in lower case stay as they are, so doing it again changes nothing
(`Outcome.tidy_tidy`).
-/

namespace SnowflakeSql

open Text

/-! ## What becomes of rows -/

/-- The fields of a row, and the same fields under lower-case keys.  Of several whose keys become
equal the last one is kept. -/
structure FieldsLowered (fields lowered : Fields Json) : Prop where
  sorted : lowered.Sorted
  lower : ∀ f ∈ lowered, lowerString f.1 = f.1
  keys : ∀ name, name ∈ lowered.keys ↔ ∃ f ∈ fields, lowerString f.1 = name
  source : ∀ f ∈ lowered, ∃ g ∈ fields, lowerString g.1 = f.1 ∧ g.2 = f.2
  last : ∀ name, lowered.get? name = (fields.namedLower name).getLast?.map Prod.snd

/-- What becomes of a row. -/
inductive LoweredRow : Json → Json → Prop
  | object {fields lowered : Fields Json} : FieldsLowered fields lowered →
    LoweredRow (.obj fields) (.obj lowered)
  | other {json : Json} : json.obj? = none → LoweredRow json json

/-- The rows that an object has under `rows`, if an array is there. -/
def rowsUnder (fields : Fields Json) : Option (List Json) := (fields.get? "rows").bind Json.arr?

/-- What becomes of an outcome: its rows are lowered one by one, and all else is as it was. -/
inductive Outcome.Tidied : Outcome → Outcome → Prop
  | empty : Tidied .empty .empty
  | count (n : Int) : Tidied (.count n) (.count n)
  | raw {rows rows' : Option (List Json)} (info : Option StatementInfo) :
    Option.Rel (List.Forall₂ LoweredRow) rows rows' →
    Tidied (.raw { rows := rows, statement := info }) (.raw { rows := rows', statement := info })
  | rows {items items' : List Json} : List.Forall₂ LoweredRow items items' →
    Tidied (.rows items) (.rows items')
  | row {item item' : Json} : LoweredRow item item' → Tidied (.row item) (.row item')
  | array {items items' : List Json} : List.Forall₂ LoweredRow items items' →
    Tidied (.value (.arr items)) (.value (.arr items'))
  | object {fields fields' : Fields Json} :
    (∀ key, key ≠ "rows" → fields'.get? key = fields.get? key) →
    Option.Rel (List.Forall₂ LoweredRow) (rowsUnder fields) (rowsUnder fields') →
    Tidied (.value (.obj fields)) (.value (.obj fields'))
  | scalar {value : Json} : value.arr? = none → value.obj? = none →
    Tidied (.value value) (.value value)

/-! ## Lowering a row -/

namespace Json

theorem mem_keys_lowerKeys {fields lowered : Fields Json}
    (h : (Json.obj fields).lowerKeys = .obj lowered) (name : String) :
    name ∈ lowered.keys ↔ ∃ f ∈ fields, lowerString f.1 = name := by
  cases h
  rw [Fields.mem_keys_ofList]
  simp [Fields.keys]

theorem fieldsLowered_of_lowerKeys {fields lowered : Fields Json}
    (h : (Json.obj fields).lowerKeys = .obj lowered) : FieldsLowered fields lowered := by
  have hsorted : lowered.Sorted := by
    cases h
    exact Fields.sorted_ofList _
  have hlast : ∀ name, lowered.get? name = (fields.namedLower name).getLast?.map Prod.snd := by
    intro name
    rw [← get?_lowerKeys, h]
    rfl
  refine ⟨hsorted, fun f hf => ?_, mem_keys_lowerKeys h, fun f hf => ?_, hlast⟩
  · obtain ⟨g, -, hg⟩ := (mem_keys_lowerKeys h f.1).mp (List.mem_map_of_mem hf)
    rw [← hg, lowerString_lowerString]
  · have hget : lowered.get? f.1 = some f.2 :=
      (Fields.get?_eq_some_iff hsorted.nodup_keys).mpr hf
    rw [hlast] at hget
    obtain ⟨g, hg, hvalue⟩ := Option.map_eq_some_iff.mp hget
    obtain ⟨hmem, hname⟩ := Fields.mem_namedLower.mp (List.mem_of_getLast? hg)
    exact ⟨g, hmem, hname, hvalue⟩

theorem loweredRow_lowerKeys (json : Json) : LoweredRow json json.lowerKeys := by
  cases json with
  | obj fields => exact .object (fieldsLowered_of_lowerKeys rfl)
  | _ => exact .other rfl

theorem lowerKeys_lowerKeys (json : Json) : json.lowerKeys.lowerKeys = json.lowerKeys := by
  cases json with
  | obj fields =>
    obtain ⟨lowered, hobj⟩ : ∃ lowered, (Json.obj fields).lowerKeys = .obj lowered := ⟨_, rfl⟩
    have hlowered := fieldsLowered_of_lowerKeys hobj
    rw [hobj]
    exact (lowerKeys_obj_eq_iff hlowered.sorted).mpr hlowered.lower
  | _ => rfl

end Json

/-! ## Lowering rows -/

theorem forall₂_lowerKeys (items : List Json) :
    List.Forall₂ LoweredRow items (items.map Json.lowerKeys) :=
  List.forall₂_map_right_iff.mpr (List.forall₂_same.mpr fun item _ =>
    Json.loweredRow_lowerKeys item)

theorem rel_lowerKeys (rows : Option (List Json)) :
    Option.Rel (List.Forall₂ LoweredRow) rows (rows.map (·.map Json.lowerKeys)) := by
  cases rows with
  | none => exact .none
  | some items => exact .some (forall₂_lowerKeys items)

theorem map_lowerKeys_lowerKeys (items : List Json) :
    (items.map Json.lowerKeys).map Json.lowerKeys = items.map Json.lowerKeys := by
  rw [List.map_map]
  exact List.map_congr_left fun item _ => item.lowerKeys_lowerKeys

theorem rowsUnder_tidyFields (fields : Fields Json) :
    rowsUnder (tidyFields fields) = (rowsUnder fields).map (·.map Json.lowerKeys) := by
  unfold rowsUnder
  rw [get?_tidyFields]
  cases fields.get? "rows" with
  | none => rfl
  | some value =>
    cases value with
    | arr items => rfl
    | _ => rfl

theorem tidyFields_of_arr {fields : Fields Json} {items : List Json}
    (h : fields.get? "rows" = some (.arr items)) :
    tidyFields fields = fields.insert "rows" (.arr (items.map Json.lowerKeys)) := by
  unfold tidyFields
  rw [h]

theorem tidyFields_tidyFields (fields : Fields Json) :
    tidyFields (tidyFields fields) = tidyFields fields := by
  by_cases harr : ∃ items, fields.get? "rows" = some (.arr items)
  · obtain ⟨items, hitems⟩ := harr
    have hlowered : (fields.insert "rows" (.arr (items.map Json.lowerKeys))).get? "rows" =
        some (.arr (items.map Json.lowerKeys)) :=
      (Fields.get?_insert fields "rows" "rows" _).trans (if_pos rfl)
    rw [tidyFields_of_arr hitems, tidyFields_of_arr hlowered, Fields.insert_insert,
      map_lowerKeys_lowerKeys]
  · have hnone : ∀ value, fields.get? "rows" = some value → value.arr? = none := by
      intro value hvalue
      cases value with
      | arr items => exact absurd ⟨items, hvalue⟩ harr
      | _ => rfl
    have herased : (fields.erase "rows").get? "rows" = none :=
      (Fields.get?_erase fields "rows" "rows").trans (if_pos rfl)
    rw [tidyFields_of_no_arr hnone, tidyFields_of_no_arr (by simp [herased])]
    exact Fields.erase_eq_self_iff.mpr (Fields.get?_eq_none_iff.mp herased)

/-! ## The last step -/

namespace Outcome

theorem tidied_tidy (outcome : Outcome) : Tidied outcome outcome.tidy := by
  cases outcome with
  | empty => exact .empty
  | count n => exact .count n
  | raw response => exact .raw response.statement (rel_lowerKeys response.rows)
  | rows items => exact .rows (forall₂_lowerKeys items)
  | row item => exact .row item.loweredRow_lowerKeys
  | value value =>
    cases value with
    | arr items => exact .array (forall₂_lowerKeys items)
    | obj fields =>
      refine .object (fun key hkey => get?_tidyFields_of_ne hkey) ?_
      rw [rowsUnder_tidyFields]
      exact rel_lowerKeys _
    | _ => exact .scalar rfl rfl

theorem tidy_tidy (outcome : Outcome) : outcome.tidy.tidy = outcome.tidy := by
  cases outcome with
  | empty => rfl
  | count n => rfl
  | raw response =>
    obtain ⟨rows, info⟩ := response
    cases rows with
    | none => rfl
    | some items =>
      exact congrArg (fun items => raw { rows := some items, statement := info })
        (map_lowerKeys_lowerKeys items)
  | rows items => exact congrArg rows (map_lowerKeys_lowerKeys items)
  | row item => exact congrArg row item.lowerKeys_lowerKeys
  | value value =>
    cases value with
    | arr items => exact congrArg (value <| .arr ·) (map_lowerKeys_lowerKeys items)
    | obj fields => exact congrArg (value <| .obj ·) (tidyFields_tidyFields fields)
    | _ => rfl

/-- Without a rule of the caller's own, the last step lowers the keys of the rows and changes
nothing else, and the same step on what it gave changes nothing at all. -/
theorem tidied_finish (outcome : Outcome) (context again : Option Context) :
    Tidied outcome (finish none outcome context) ∧
      finish none (finish none outcome context) again = finish none outcome context :=
  ⟨tidied_tidy outcome, tidy_tidy outcome⟩

end Outcome

end SnowflakeSql
