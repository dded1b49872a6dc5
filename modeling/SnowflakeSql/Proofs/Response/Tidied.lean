import SnowflakeSql.Proofs.Json.Fields
import SnowflakeSql.Proofs.Text.Lowercase
import SnowflakeSql.Response.Tidy

/-!
# What tidying changes

Under a key of a row with lower-case keys stands the last of the values whose keys are that key
in lower case (`Json.get?_lowerKeys`), so a row stays as it is exactly if all its keys are in
lower case (`Json.lowerKeys_obj_eq_iff`).  In an object that is no row nothing changes but what
stands under `rows` (`get?_tidyFields`).
-/

namespace SnowflakeSql

open Text

namespace Fields

variable {α : Type} {fields : Fields α} {name : String}

/-- The fields whose keys are the name in lower case. -/
def namedLower (fields : Fields α) (name : String) : Fields α :=
  fields.filter fun f => lowerString f.1 = name

theorem mem_namedLower {f : String × α} :
    f ∈ fields.namedLower name ↔ f ∈ fields ∧ lowerString f.1 = name := by
  unfold namedLower
  rw [List.mem_filter, decide_eq_true_iff]

theorem Sorted.namedLower (h : fields.Sorted) (name : String) : (fields.namedLower name).Sorted :=
  List.Pairwise.filter _ h

end Fields

/-! ## Rows -/

namespace Json

variable {fields : Fields Json}

/-- Of the values whose keys are equal in lower case the last one counts. -/
theorem get?_lowerKeys (fields : Fields Json) (name : String) :
    (Json.obj fields).lowerKeys.get? name = (fields.namedLower name).getLast?.map Prod.snd := by
  change (Fields.ofList (fields.map fun f => (lowerString f.1, f.2))).get? name = _
  rw [Fields.get?_ofList, Fields.get?_eq_find?, ← List.map_reverse, List.find?_map,
    ← List.head?_filter, List.filter_reverse, List.head?_reverse, Option.map_map]
  rfl

/-- A row stays as it is if and only if all its keys are in lower case. -/
theorem lowerKeys_obj_eq_iff (h : fields.Sorted) :
    (Json.obj fields).lowerKeys = .obj fields ↔ ∀ f ∈ fields, lowerString f.1 = f.1 := by
  constructor
  · -- The keys that come out are keys in lower case, which lower case changes no more.
    intro heq f hf
    have hfields : Fields.ofList (fields.map fun f => (lowerString f.1, f.2)) = fields :=
      Json.obj.inj heq
    rw [← hfields] at hf
    have hkey := Fields.mem_keys_ofList.mp (List.mem_map_of_mem hf)
    unfold Fields.keys at hkey
    rw [List.map_map, List.mem_map] at hkey
    obtain ⟨g, -, hg⟩ := hkey
    rw [← hg]
    exact lowerString_lowerString g.1
  · intro hlower
    have hmap : fields.map (fun f => (lowerString f.1, f.2)) = fields := by
      refine (List.map_congr_left fun f hf => ?_).trans (List.map_id fields)
      rw [hlower f hf]
      rfl
    change Json.ofPairs _ = _
    rw [hmap]
    exact congrArg Json.obj h.ofList_eq

theorem lowerKeys_eq_self {json : Json} (h : json.obj? = none) : json.lowerKeys = json := by
  cases json with
  | obj fields => cases h
  | _ => rfl

theorem lowerKeys_singleton {key name : String} (h : lowerString key = name) (value : Json) :
    (Json.obj [(key, value)]).lowerKeys = .obj [(name, value)] := h ▸ rfl

/-- A document that stands under a key, with lower-case keys in the items of an array under
`rows`. -/
def tidyUnder (key : String) : Json → Json
  | .arr items => if key = "rows" then .arr (items.map lowerKeys) else .arr items
  | other => other

/-- Whether tidying keeps a document that stands under the key. -/
def staysUnder (key : String) (value : Json) : Bool := key ≠ "rows" || value.arr?.isSome

theorem tidyUnder_of_ne {key : String} (h : key ≠ "rows") (value : Json) :
    value.tidyUnder key = value := by
  cases value with
  | arr items => exact if_neg h
  | _ => rfl

theorem staysUnder_of_ne {key : String} (h : key ≠ "rows") (value : Json) :
    value.staysUnder key = true := by
  unfold staysUnder
  rw [decide_eq_true h, Bool.true_or]

end Json

/-! ## Other objects -/

section Objects

variable {fields : Fields Json}

theorem tidyFields_of_no_arr (h : ∀ value, fields.get? "rows" = some value → value.arr? = none) :
    tidyFields fields = fields.erase "rows" := by
  unfold tidyFields
  split
  · next items hrows => nomatch h _ hrows
  · rfl

theorem map_filter_eq_map_iff {α β : Type} {o : Option α} {p : α → Bool} {f : α → β} :
    (o.filter p).map f = o.map f ↔ ∀ x, o = some x → p x = true := by
  cases o with
  | none => simp
  | some x => cases hp : p x <;> simp [hp]

theorem get?_tidyFields_of_ne {key : String} (h : key ≠ "rows") :
    (tidyFields fields).get? key = fields.get? key := by
  unfold tidyFields
  split
  · rw [Fields.get?_insert, if_neg h.symm]
  · rw [Fields.get?_erase, if_neg h.symm]

/-- What stands under a key after tidying. -/
theorem get?_tidyFields (fields : Fields Json) (key : String) :
    (tidyFields fields).get? key =
      ((fields.get? key).filter (Json.staysUnder key)).map (Json.tidyUnder key) := by
  by_cases hkey : key = "rows"
  · subst hkey
    unfold tidyFields
    cases hrows : fields.get? "rows" with
    | none => exact (Fields.get?_erase fields "rows" "rows").trans (if_pos rfl)
    | some value =>
      cases value with
      | arr items => exact (Fields.get?_insert fields "rows" "rows" _).trans (if_pos rfl)
      | _ => exact (Fields.get?_erase fields "rows" "rows").trans (if_pos rfl)
  · rw [get?_tidyFields_of_ne hkey]
    cases fields.get? key with
    | none => rfl
    | some value =>
      rw [Option.filter_some_pos (Json.staysUnder_of_ne hkey value)]
      exact congrArg some (Json.tidyUnder_of_ne hkey value).symm

/-- Nothing is lost if and only if nothing but an array stands under `rows`. -/
theorem get?_tidyFields_eq_map_iff (fields : Fields Json) :
    (∀ key, (tidyFields fields).get? key = (fields.get? key).map (Json.tidyUnder key)) ↔
      ∀ value, fields.get? "rows" = some value → value.arr?.isSome := by
  simp only [get?_tidyFields, map_filter_eq_map_iff]
  constructor
  · intro h value hvalue
    exact h "rows" value hvalue
  · intro h key value hvalue
    by_cases hkey : key = "rows"
    · subst hkey
      exact h value hvalue
    · exact Json.staysUnder_of_ne hkey value

theorem sorted_tidyFields (h : fields.Sorted) : (tidyFields fields).Sorted := by
  unfold tidyFields
  split
  · exact h.insert _ _
  · exact h.erase _

end Objects

end SnowflakeSql
