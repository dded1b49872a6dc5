import SnowflakeSql.Proofs.Response.RowKeys

/-!
# Keys that become equal

Lower case can take several keys to one and change their order, so a row with lower-case keys is put
together anew.  Its keys are the keys of the row in lower case, and of the values whose keys become
equal it has the one that stood under the greatest of them, in the order of code points
(`Fields.Sorted.get?_lowerKeys_eq_some_iff`).  Fields are lost to that and to nothing else: where
the keys stay different, all fields are there, each under its key in lower case
(`lowerKeys_of_sorted`).
-/

namespace SnowflakeSql

open Text

namespace Fields

variable {fields : Fields Json}

/-- The fields under lower-case keys, before those that become equal are made one. -/
def lowerPairs (fields : Fields Json) : List (String × Json) :=
  fields.map fun f => (lowerString f.1, f.2)

theorem keys_lowerPairs (fields : Fields Json) :
    keys fields.lowerPairs = fields.keys.map lowerString := by
  unfold keys lowerPairs
  rw [List.map_map, List.map_map]
  rfl

/-- Under a lower-case key stands the value of the greatest key that becomes it. -/
theorem Sorted.get?_lowerKeys_eq_some_iff (h : fields.Sorted) {name : String} {value : Json} :
    (Json.obj fields).lowerKeys.get? name = some value ↔
      ∃ key, (key, value) ∈ fields ∧ lowerString key = name ∧
        ∀ other ∈ fields.keys, lowerString other = name → other ≤ key := by
  have hnamed := h.namedLower name
  rw [Json.get?_lowerKeys, Option.map_eq_some_iff]
  constructor
  · rintro ⟨f, hlast, rfl⟩
    obtain ⟨hf, hmax⟩ := hnamed.getLast?_eq_some_iff.mp hlast
    obtain ⟨hfields, hname⟩ := mem_namedLower.mp hf
    refine ⟨f.1, hfields, hname, fun other hother hlower => ?_⟩
    obtain ⟨g, hg, rfl⟩ := List.mem_map.mp hother
    exact hmax g (mem_namedLower.mpr ⟨hg, hlower⟩)
  · rintro ⟨key, hfields, hname, hmax⟩
    refine ⟨(key, value), hnamed.getLast?_eq_some_iff.mpr
      ⟨mem_namedLower.mpr ⟨hfields, hname⟩, fun g hg => ?_⟩, rfl⟩
    obtain ⟨hgfields, hgname⟩ := mem_namedLower.mp hg
    exact hmax g.1 (List.mem_map_of_mem hgfields) hgname

end Fields

/-- A row with its keys in lower case has just the keys of the row in lower case.  Under each stands
the value of the greatest key that becomes it, and where no two keys become equal no field is
lost. -/
theorem lowerKeys_of_sorted {fields : Fields Json} (h : fields.Sorted) :
    ∃ lowered : Fields Json, (Json.obj fields).lowerKeys = .obj lowered ∧ lowered.Sorted ∧
      (∀ name, name ∈ lowered.keys ↔ ∃ f ∈ fields, lowerString f.1 = name) ∧
      (∀ name value, lowered.get? name = some value ↔
        ∃ key, (key, value) ∈ fields ∧ lowerString key = name ∧
          ∀ other ∈ fields.keys, lowerString other = name → other ≤ key) ∧
      (lowered.length = fields.length ↔ (fields.keys.map lowerString).Nodup) ∧
      ((fields.keys.map lowerString).Nodup →
        ∀ key value, (key, value) ∈ fields → (lowerString key, value) ∈ lowered) := by
  refine ⟨.ofList fields.lowerPairs, rfl, Fields.sorted_ofList _, Json.mem_keys_lowerKeys rfl,
    fun name value => h.get?_lowerKeys_eq_some_iff, ?_, fun hnodup key value hmem => ?_⟩
  · rw [← Fields.keys_lowerPairs, ← Fields.length_ofList_eq_iff]
    unfold Fields.lowerPairs
    rw [List.length_map]
  · rw [← Fields.keys_lowerPairs] at hnodup
    exact (Fields.perm_ofList hnodup).mem_iff.mpr (List.mem_map.mpr ⟨_, hmem, rfl⟩)

/-- A row with three spellings of one column, and other columns. -/
def manySpellings : Fields Json :=
  [("ID", .int 1), ("Id", .int 2), ("ZIP", .str "9"), ("age", .int 7), ("iD", .int 3)]

/-- The last spelling counts in that row, and two fields are lost. -/
theorem lowerKeys_of_sorted_manySpellings :
    manySpellings.Sorted ∧ ∃ lowered : Fields Json,
      (Json.obj manySpellings).lowerKeys = .obj lowered ∧ lowered.Sorted ∧
      lowered.get? "id" = some (.int 3) ∧ lowered.length ≠ manySpellings.length := by
  have hsorted : manySpellings.Sorted := by
    unfold Fields.Sorted
    decide +kernel
  obtain ⟨lowered, hlowered, horder, -, hvalue, hlength, -⟩ := lowerKeys_of_sorted hsorted
  refine ⟨hsorted, lowered, hlowered, horder, (hvalue _ _).mpr ⟨"iD", ?_, ?_, ?_⟩, fun h => ?_⟩
  · simp [manySpellings]
  · decide +kernel
  · decide +kernel
  · have hnodup := hlength.mp h
    revert hnodup
    decide +kernel

end SnowflakeSql
