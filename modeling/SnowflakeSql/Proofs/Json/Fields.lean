import Mathlib.Data.List.Induction
import Mathlib.Data.List.Nodup
import Mathlib.Data.List.Perm.Subperm
import Mathlib.Data.String.Basic
import SnowflakeSql.Json.Basic

/-!
# Fields in order

Fields in order are determined by the values under their keys (`Fields.Sorted.ext`).  Inserting
and erasing keep the order, so `Fields.ofList` gives fields in order, with the last of the values
given for a key under it (`Fields.get?_ofList`).  Of pairs with different keys nothing is lost
(`Fields.perm_ofList`), and pairs in order are the fields already (`Fields.Sorted.ofList_eq`).
A document is well-formed if the fields of every object in it are in order.
-/

namespace SnowflakeSql

namespace Fields

variable {α : Type} {fields : Fields α} {key : String} {value : α}

theorem mem_of_get? (h : fields.get? key = some value) : (key, value) ∈ fields := by
  induction fields with
  | nil => cases h
  | cons f rest ih =>
    unfold get? at h
    split_ifs at h with hkey
    · cases h
      exact hkey ▸ List.mem_cons_self
    · exact List.mem_cons_of_mem f (ih h)

theorem get?_eq_find? (fields : Fields α) (key : String) :
    fields.get? key = (fields.find? fun f => f.1 = key).map Prod.snd := by
  induction fields with
  | nil => rfl
  | cons f rest ih =>
    unfold get?
    by_cases hkey : f.1 = key
    · simp [hkey]
    · simpa [hkey] using ih

theorem get?_eq_none_iff : fields.get? key = none ↔ key ∉ fields.keys := by
  induction fields with
  | nil => simp [get?, keys]
  | cons f rest ih =>
    obtain ⟨k, v⟩ := f
    by_cases hkey : k = key
    · simp [get?, keys, hkey]
    · have hne : key ≠ k := fun h => hkey h.symm
      simpa [get?, keys, hkey, hne] using ih

/-- Where no key comes twice, every field counts. -/
theorem get?_eq_some_iff (h : fields.keys.Nodup) :
    fields.get? key = some value ↔ (key, value) ∈ fields := by
  refine ⟨mem_of_get?, fun hmem => ?_⟩
  induction fields with
  | nil => cases hmem
  | cons f rest ih =>
    obtain ⟨k, v⟩ := f
    obtain ⟨hnot, hrest⟩ := List.nodup_cons.mp h
    unfold get?
    rcases List.mem_cons.mp hmem with heq | hmem
    · cases heq
      exact if_pos rfl
    · have hkey : k ≠ key := fun hk => hnot (List.mem_map.mpr ⟨_, hmem, hk.symm⟩)
      rw [if_neg hkey]
      exact ih hrest hmem

theorem nodup_of_nodup_keys (h : fields.keys.Nodup) : fields.Nodup := List.Nodup.of_map _ h

/-! ## Order -/

theorem Sorted.nodup_keys (h : fields.Sorted) : fields.keys.Nodup := by
  refine List.pairwise_map.mpr (List.Pairwise.imp (fun hlt heq => ?_) h)
  exact String.lt_irrefl _ (heq ▸ hlt)

/-- Fields in order are determined by the values under their keys. -/
theorem Sorted.ext {fields' : Fields α} (h : fields.Sorted) (h' : fields'.Sorted)
    (hget : ∀ key, fields.get? key = fields'.get? key) : fields = fields' := by
  have hmem : ∀ f, f ∈ fields ↔ f ∈ fields' := fun f => by
    rw [← get?_eq_some_iff h.nodup_keys, ← get?_eq_some_iff h'.nodup_keys, hget]
  have hperm : fields.Perm fields' := (List.perm_ext_iff_of_nodup
    (nodup_of_nodup_keys h.nodup_keys) (nodup_of_nodup_keys h'.nodup_keys)).mpr hmem
  refine hperm.eq_of_pairwise (fun a b _ _ hab hba => ?_) h h'
  exact absurd hba (String.lt_asymm hab)

/-- Of fields in order the last one has the greatest key. -/
theorem Sorted.getLast?_eq_some_iff {f : String × α} (h : fields.Sorted) :
    fields.getLast? = some f ↔ f ∈ fields ∧ ∀ g ∈ fields, g.1 ≤ f.1 := by
  have hgreatest : ∀ {l}, fields.getLast? = some l → l ∈ fields ∧ ∀ g ∈ fields, g.1 ≤ l.1 := by
    intro l hl
    obtain ⟨front, rfl⟩ := List.getLast?_eq_some_iff.mp hl
    refine ⟨List.mem_append_right front List.mem_cons_self, fun g hg => ?_⟩
    rcases List.mem_append.mp hg with hfront | hlast
    · exact ((List.pairwise_append.mp h).2.2 g hfront l List.mem_cons_self).le
    · exact (congrArg Prod.fst (List.mem_singleton.mp hlast)).le
  refine ⟨hgreatest, fun ⟨hmem, hmax⟩ => ?_⟩
  obtain ⟨l, hl⟩ : ∃ l, fields.getLast? = some l :=
    ⟨_, List.getLast?_eq_some_getLast (List.ne_nil_of_mem hmem)⟩
  obtain ⟨hlmem, hlmax⟩ := hgreatest hl
  have hkey : l.1 = f.1 := le_antisymm (hmax l hlmem) (hlmax f hmem)
  rw [hl, List.inj_on_of_nodup_map h.nodup_keys hlmem hmem hkey]

theorem mem_insert {f : String × α} (h : f ∈ fields.insert key value) :
    f = (key, value) ∨ f ∈ fields := by
  induction fields with
  | nil => exact .inl (List.mem_singleton.mp h)
  | cons g rest ih =>
    unfold insert at h
    split_ifs at h with heq hlt
    · exact (List.mem_cons.mp h).imp_right (List.mem_cons_of_mem g)
    · exact List.mem_cons.mp h
    · rcases List.mem_cons.mp h with hg | hrest
      · exact .inr (hg ▸ List.mem_cons_self)
      · exact (ih hrest).imp_right (List.mem_cons_of_mem g)

theorem Sorted.insert (h : fields.Sorted) (key : String) (value : α) :
    (fields.insert key value).Sorted := by
  induction fields with
  | nil => exact List.pairwise_singleton _ _
  | cons f rest ih =>
    obtain ⟨k, v⟩ := f
    obtain ⟨hfirst, hrest⟩ := List.pairwise_cons.mp h
    unfold Fields.insert
    split_ifs with heq hlt
    · exact List.pairwise_cons.mpr ⟨fun g hg => heq ▸ hfirst g hg, hrest⟩
    · refine List.pairwise_cons.mpr ⟨fun g hg => ?_, h⟩
      rcases List.mem_cons.mp hg with rfl | hg
      · exact hlt
      · exact String.lt_trans hlt (hfirst g hg)
    · refine List.pairwise_cons.mpr ⟨fun g hg => ?_, ih hrest⟩
      rcases mem_insert hg with rfl | hg
      · exact lt_of_le_of_ne (String.not_lt.mp hlt) (Ne.symm heq)
      · exact hfirst g hg

/-- Of two values put under one key the later one stays. -/
theorem insert_insert (fields : Fields α) (key : String) (first second : α) :
    (fields.insert key first).insert key second = fields.insert key second := by
  induction fields with
  | nil => simp [insert]
  | cons f rest ih =>
    obtain ⟨k, v⟩ := f
    by_cases hkey : key = k
    · simp [insert, hkey]
    · by_cases hlt : key < k
      · simp [insert, hkey, hlt]
      · simp [insert, hkey, hlt, ih]

theorem erase_eq_self_iff : fields.erase key = fields ↔ key ∉ fields.keys := by
  unfold erase keys
  rw [List.filter_eq_self, List.mem_map]
  constructor
  · rintro h ⟨f, hf, hkey⟩
    exact of_decide_eq_true (h f hf) hkey
  · exact fun h f hf => decide_eq_true fun hkey => h ⟨f, hf, hkey⟩

theorem Sorted.erase (h : fields.Sorted) (key : String) : (fields.erase key).Sorted :=
  List.Pairwise.filter _ h

/-! ## Fields of a list of pairs -/

theorem ofList_append_singleton (pairs : List (String × α)) (pair : String × α) :
    ofList (pairs ++ [pair]) = (ofList pairs).insert pair.1 pair.2 := by
  unfold ofList
  rw [List.foldl_append]
  rfl

theorem sorted_ofList (pairs : List (String × α)) : (ofList pairs).Sorted := by
  induction pairs using List.reverseRecOn with
  | nil => exact List.Pairwise.nil
  | append_singleton pairs pair ih =>
    rw [ofList_append_singleton]
    exact ih.insert pair.1 pair.2

/-- The last value that is given for a key counts. -/
theorem get?_ofList (pairs : List (String × α)) (key : String) :
    (ofList pairs).get? key = get? pairs.reverse key := by
  induction pairs using List.reverseRecOn with
  | nil => rfl
  | append_singleton pairs pair ih =>
    rw [ofList_append_singleton, get?_insert, ih, List.reverse_append]
    rfl

theorem keys_reverse (fields : Fields α) : keys fields.reverse = fields.keys.reverse :=
  List.map_reverse

/-- Where no key comes twice, it does not matter whether the first or the last value counts. -/
theorem get?_reverse (h : fields.keys.Nodup) (key : String) :
    get? fields.reverse key = fields.get? key := by
  have hreverse : (keys fields.reverse).Nodup := by
    rw [keys_reverse]
    exact List.nodup_reverse.mpr h
  refine Option.ext fun value => ?_
  rw [get?_eq_some_iff hreverse, get?_eq_some_iff h, List.mem_reverse]

theorem mem_keys_ofList {pairs : List (String × α)} :
    key ∈ (ofList pairs).keys ↔ key ∈ keys pairs := by
  rw [← not_iff_not, ← get?_eq_none_iff, get?_ofList, get?_eq_none_iff, keys_reverse,
    List.mem_reverse]

theorem get?_ofList_of_nodup {pairs : List (String × α)} (h : (keys pairs).Nodup)
    (key : String) : (ofList pairs).get? key = get? pairs key :=
  (get?_ofList pairs key).trans (get?_reverse h key)

/-- Of pairs with different keys none is lost. -/
theorem perm_ofList {pairs : List (String × α)} (h : (keys pairs).Nodup) :
    (ofList pairs).Perm pairs := by
  have hkeys := (sorted_ofList pairs).nodup_keys
  refine (List.perm_ext_iff_of_nodup (nodup_of_nodup_keys hkeys)
    (nodup_of_nodup_keys h)).mpr fun f => ?_
  rw [← get?_eq_some_iff hkeys, ← get?_eq_some_iff h, get?_ofList_of_nodup h]

/-- A pair is lost if and only if some key comes twice. -/
theorem length_ofList_eq_iff {pairs : List (String × α)} :
    (ofList pairs).length = pairs.length ↔ (keys pairs).Nodup := by
  refine ⟨fun hlength => ?_, fun h => (perm_ofList h).length_eq⟩
  have hsubperm : (keys (ofList pairs)).Subperm (keys pairs) :=
    List.subperm_of_subset (sorted_ofList pairs).nodup_keys fun _ => mem_keys_ofList.mp
  have hle : (keys pairs).length ≤ (keys (ofList pairs)).length := by
    unfold keys
    rw [List.length_map, List.length_map, hlength]
  exact (hsubperm.perm_of_length_le hle).nodup_iff.mp (sorted_ofList pairs).nodup_keys

theorem Sorted.ofList_eq (h : fields.Sorted) : ofList fields = fields :=
  (sorted_ofList fields).ext h (get?_ofList_of_nodup h.nodup_keys)

end Fields

/-- In every object of the document the fields are in order. -/
inductive Json.WellFormed : Json → Prop
  | null : WellFormed .null
  | bool (value : Bool) : WellFormed (.bool value)
  | int (value : Int) : WellFormed (.int value)
  | float (value : Binary64) : WellFormed (.float value)
  | str (value : String) : WellFormed (.str value)
  | arr {items : List Json} : (∀ item ∈ items, WellFormed item) → WellFormed (.arr items)
  | obj {fields : Fields Json} : fields.Sorted → (∀ f ∈ fields, WellFormed f.2) →
    WellFormed (.obj fields)

end SnowflakeSql
