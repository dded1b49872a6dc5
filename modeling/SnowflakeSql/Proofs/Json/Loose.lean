import SnowflakeSql.Json.Lookup
import SnowflakeSql.Proofs.Json.Fields

/-!
# Reading fields whatever the case of their keys

A value that is read loosely stands under the key but for the case of the letters A to Z, and there
is one unless no key is equal to it so (`Fields.getLoose?_eq_none_iff`).  Where no two keys are
equal but for case, it is the only such value (`Fields.Apart.getLoose?_eq_some_iff`), so it makes no
difference in which case the keys are written and how that orders the fields
(`Fields.Recased.getLoose?_eq`).
-/

namespace SnowflakeSql.Fields

open Text

variable {α : Type} {fields fields' : Fields α} {key : String} {value : α}

theorem exists_mem_of_getLoose? (h : fields.getLoose? key = some value) :
    ∃ f ∈ fields, equalIgnoringCase f.1 key = true ∧ f.2 = value := by
  unfold getLoose? at h
  split at h
  · next value' hget =>
    cases h
    exact ⟨_, mem_of_get? hget, equalIgnoringCase_refl key, rfl⟩
  · obtain ⟨f, hfind, hf⟩ := Option.map_eq_some_iff.mp h
    exact ⟨f, List.mem_of_find?_eq_some hfind, (List.find?_eq_some_iff_append.mp hfind).1, hf⟩

theorem getLoose?_eq_none_iff :
    fields.getLoose? key = none ↔ ∀ f ∈ fields, equalIgnoringCase f.1 key = false := by
  constructor
  · intro h f hf
    unfold getLoose? at h
    split at h
    · cases h
    · rw [Option.map_eq_none_iff, List.find?_eq_none] at h
      exact Bool.not_eq_true _ ▸ h f hf
  · refine fun h => Option.eq_none_iff_forall_ne_some.mpr fun value hvalue => ?_
    obtain ⟨f, hf, hcase, -⟩ := exists_mem_of_getLoose? hvalue
    rw [h f hf] at hcase
    cases hcase

/-! ## Keys apart -/

/-- No two keys are equal but for the case of the letters A to Z. -/
def Apart (fields : Fields α) : Prop :=
  fields.Pairwise fun f g => equalIgnoringCase f.1 g.1 = false

/-- The key of a field with the letters A to Z in lower case. -/
def foldedKey (f : String × α) : List Char := f.1.toList.map foldAscii

theorem apart_iff : fields.Apart ↔ (fields.map foldedKey).Nodup := by
  unfold Apart equalIgnoringCase List.Nodup foldedKey
  simp only [List.pairwise_map, beq_eq_false_iff_ne]

/-- Where keys are apart, a value is read if and only if it stands under the key but for case. -/
theorem Apart.getLoose?_eq_some_iff (h : fields.Apart) :
    fields.getLoose? key = some value ↔
      ∃ f ∈ fields, equalIgnoringCase f.1 key = true ∧ f.2 = value := by
  refine ⟨exists_mem_of_getLoose?, fun ⟨f, hf, hcase, hvalue⟩ => ?_⟩
  cases hread : fields.getLoose? key with
  | none =>
    rw [getLoose?_eq_none_iff.mp hread f hf] at hcase
    cases hcase
  | some value' =>
    obtain ⟨g, hg, hcase', rfl⟩ := exists_mem_of_getLoose? hread
    have hfold : foldedKey f = foldedKey g :=
      (eq_of_beq hcase).trans (eq_of_beq hcase').symm
    rw [← hvalue, List.inj_on_of_nodup_map (apart_iff.mp h) hf hg hfold]

/-! ## Keys in another case -/

/-- The same values under the same keys but for the case of the letters A to Z, in any order. -/
def Recased (fields fields' : Fields α) : Prop :=
  ∃ rename : String → String, (∀ key, equalIgnoringCase (rename key) key = true) ∧
    fields'.Perm (fields.map fun f => (rename f.1, f.2))

theorem Recased.apart (h : Recased fields fields') (hapart : fields.Apart) : fields'.Apart := by
  obtain ⟨rename, hrename, hperm⟩ := h
  have hfold : foldedKey ∘ (fun f : String × α => (rename f.1, f.2)) = foldedKey :=
    funext fun f => eq_of_beq (hrename f.1)
  rw [apart_iff, (hperm.map foldedKey).nodup_iff, List.map_map, hfold]
  exact apart_iff.mp hapart

/-- What is read does not depend on the case in which keys are written. -/
theorem Recased.getLoose?_eq (h : Recased fields fields') (hapart : fields.Apart) (key : String) :
    fields'.getLoose? key = fields.getLoose? key := by
  obtain ⟨rename, hrename, hperm⟩ := id h
  have hcase (k : String) : equalIgnoringCase (rename k) key = equalIgnoringCase k key := by
    unfold equalIgnoringCase
    rw [eq_of_beq (hrename k)]
  refine Option.ext fun value => ?_
  rw [hapart.getLoose?_eq_some_iff, (h.apart hapart).getLoose?_eq_some_iff]
  simp only [hperm.mem_iff, List.mem_map]
  constructor
  · rintro ⟨-, ⟨f, hf, rfl⟩, hkey, hvalue⟩
    exact ⟨f, hf, (hcase f.1).symm.trans hkey, hvalue⟩
  · rintro ⟨f, hf, hkey, hvalue⟩
    exact ⟨_, ⟨f, hf, rfl⟩, (hcase f.1).trans hkey, hvalue⟩

end SnowflakeSql.Fields
