import Mathlib.Tactic.Common
import SnowflakeSql.Text.Casing

/-!
# Texts in lower case

No run of the lower-case mapping meets the images of another (`lowerRuns_miss`), so what a
character is mapped to stays as it is when it is mapped again (`isLowered_of_mem_lowerChar`), and
so does a text (`lower_lower`).  The sigma is no exception, as both its lower-case forms stay.
The case of the letters A to Z makes no difference (`lower_map_foldAscii`), not even to a sigma
beside them: texts that are equal but for it are equal in lower case.  A mark that takes no part in
casing, such as the underscore, `Divides` a text into parts that are mapped one by one
(`Divides.lower_intercalate`).
-/

namespace SnowflakeSql.Text

/-! ## Images of runs -/

namespace CaseRun

/-- The least image of a run. -/
def firstImage (run : CaseRun) : Nat := ((run.first : Int) + run.shift).toNat

/-- The greatest image of a run. -/
def lastImage (run : CaseRun) : Nat := ((run.last : Int) + run.shift).toNat

/-- No image of the run is in the other: they are apart, or every second code point of one kind
against those of the other kind. -/
def misses (run other : CaseRun) : Bool :=
  Nat.blt run.lastImage other.first || (Nat.blt other.last run.firstImage ||
    ((Nat.beq run.step 2 || Nat.beq run.first run.last) && Nat.beq other.step 2 &&
      !Nat.beq (run.firstImage % 2) (other.first % 2)))

theorem image?_eq_none_of_misses {run other : CaseRun} (h : run.misses other = true)
    (hshift : 0 ≤ (run.first : Int) + run.shift) {n m : Nat} (hm : run.image? n = some m) :
    other.image? m = none := by
  unfold image? at hm
  split_ifs at hm with hn
  cases hm
  obtain ⟨hfirst, hlast, hstep⟩ := hn
  unfold image?
  refine if_neg ?_
  rintro ⟨hfirst', hlast', hstep'⟩
  unfold misses firstImage lastImage at h
  simp only [Bool.or_eq_true, Bool.and_eq_true, Bool.not_eq_true', Nat.blt_eq, Nat.beq_eq,
    ← Bool.not_eq_true] at h
  rcases h with happart | happart | ⟨⟨hevery, hother⟩, hparity⟩
  · omega
  · omega
  · rw [hother] at hstep'
    rcases hevery with htwo | hone
    · rw [htwo] at hstep
      omega
    · omega

end CaseRun

/-- The one character whose lower-case form is an expansion, as a run. -/
def dottedCapital : CaseRun := ⟨304, 304, 1, 0⟩

theorem lowerRuns_miss :
    (lowerRuns.all fun run => decide (0 ≤ (run.first : Int) + run.shift) &&
      (dottedCapital :: lowerRuns).all run.misses) = true := by
  decide +kernel

/-! ## Characters that stay -/

/-- Lower case leaves the character as it is, wherever it stands. -/
def IsLowered (c : Char) : Prop := lowerChar c = [c] ∧ c ≠ 'Σ'

theorem isLowered_null : IsLowered '\x00' := ⟨rfl, by decide⟩

theorem isLowered_lowerSigma (before after : List Char) : IsLowered (lowerSigma before after) := by
  unfold lowerSigma
  split_ifs
  · exact ⟨rfl, by decide⟩
  · exact ⟨rfl, by decide⟩

theorem toNat_ofNat (n : Nat) : (Char.ofNat n).toNat = n ∨ Char.ofNat n = '\x00' := by
  by_cases h : n.isValidChar
  · left
    unfold Char.ofNat
    rw [dif_pos h]
    rfl
  · right
    exact dif_neg h

/-- A character without an expansion that no run has stays. -/
theorem isLowered_of_image?_eq_none {c : Char} (hexpansion : c.toNat ≠ 304)
    (hruns : ∀ run ∈ lowerRuns, run.image? c.toNat = none) : IsLowered c := by
  have hlookup : lowerExpansions.lookup c.toNat = none := by
    unfold lowerExpansions
    rw [List.lookup_cons, beq_false_of_ne hexpansion]
    rfl
  have hchar : lowerChar c = [c] := by
    unfold lowerChar mapByRuns
    rw [hlookup, List.findSome?_eq_none_iff.mpr hruns]
  refine ⟨hchar, ?_⟩
  rintro rfl
  have hsigma : lowerChar 'Σ' = ['σ'] := rfl
  rw [hsigma] at hchar
  cases hchar

/-- The image of a character under a run stays. -/
theorem isLowered_of_image?_eq_some {run : CaseRun} (hrun : run ∈ lowerRuns) {n m : Nat}
    (h : run.image? n = some m) : IsLowered (Char.ofNat m) := by
  have hcheck := List.all_eq_true.mp lowerRuns_miss run hrun
  simp only [Bool.and_eq_true, decide_eq_true_eq] at hcheck
  obtain ⟨hshift, hmisses⟩ := hcheck
  have hmiss : ∀ other ∈ dottedCapital :: lowerRuns, other.image? m = none := fun other hother =>
    CaseRun.image?_eq_none_of_misses (List.all_eq_true.mp hmisses other hother) hshift h
  -- An image that is no code point of a character would give the null character.
  rcases toNat_ofNat m with hm | hm
  · refine isLowered_of_image?_eq_none ?_ fun other hother => ?_
    · rw [hm]
      rintro rfl
      cases hmiss dottedCapital List.mem_cons_self
    · rw [hm]
      exact hmiss other (List.mem_cons_of_mem _ hother)
  · exact hm ▸ isLowered_null

/-- What a character is mapped to stays. -/
theorem isLowered_of_mem_lowerChar {c d : Char} (h : d ∈ lowerChar c) : IsLowered d := by
  by_cases hexpansion : c.toNat = 304
  · have hc : c = 'İ' := Char.ext (UInt32.toNat_inj.mp hexpansion)
    have hlower : lowerChar 'İ' = ['i', '\u0307'] := rfl
    rw [hc, hlower] at h
    simp only [List.mem_cons, List.not_mem_nil, or_false] at h
    rcases h with rfl | rfl
    · exact ⟨rfl, by decide⟩
    · exact ⟨rfl, by decide⟩
  · have hlookup : lowerExpansions.lookup c.toNat = none := by
      unfold lowerExpansions
      rw [List.lookup_cons, beq_false_of_ne hexpansion]
      rfl
    unfold lowerChar mapByRuns at h
    rw [hlookup] at h
    cases hfind : lowerRuns.findSome? (·.image? c.toNat) with
    | none =>
      rw [hfind] at h
      rw [List.mem_singleton.mp h]
      exact isLowered_of_image?_eq_none hexpansion (List.findSome?_eq_none_iff.mp hfind)
    | some m =>
      rw [hfind] at h
      obtain ⟨run, hrun, himage⟩ := List.exists_of_findSome?_eq_some hfind
      rw [List.mem_singleton.mp h]
      exact isLowered_of_image?_eq_some hrun himage

theorem isLowered_of_mem_lowerAfter {before cs : List Char} {d : Char}
    (h : d ∈ lowerAfter before cs) : IsLowered d := by
  induction cs generalizing before with
  | nil => cases h
  | cons c cs ih =>
    unfold lowerAfter at h
    rcases List.mem_append.mp h with hfirst | hrest
    · split_ifs at hfirst
      · exact List.mem_singleton.mp hfirst ▸ isLowered_lowerSigma before cs
      · exact isLowered_of_mem_lowerChar hfirst
    · exact ih hrest

theorem lowerAfter_of_isLowered {cs : List Char} (h : ∀ c ∈ cs, IsLowered c)
    (before : List Char) : lowerAfter before cs = cs := by
  induction cs generalizing before with
  | nil => rfl
  | cons c cs ih =>
    obtain ⟨hchar, hsigma⟩ := h c List.mem_cons_self
    unfold lowerAfter
    rw [if_neg hsigma, hchar, ih fun d hd => h d (List.mem_cons_of_mem c hd)]
    rfl

theorem lower_lower (cs : List Char) : lower (lower cs) = lower cs :=
  lowerAfter_of_isLowered (fun _ => isLowered_of_mem_lowerAfter) []

theorem lowerString_lowerString (s : String) : lowerString (lowerString s) = lowerString s := by
  unfold lowerString
  rw [String.toList_ofList, lower_lower]

/-! ## The letters A to Z -/

/-- What holds of a capital and its small letter, and of every character and itself, holds of a
character and its fold. -/
theorem foldAscii_rel {P : Char → Char → Prop} (refl : ∀ c, P c c)
    (letters : ∀ k : Fin 26, P (Char.ofNat (65 + k)) (Char.ofNat (97 + k))) (c : Char) :
    P c (foldAscii c) := by
  unfold foldAscii
  split_ifs with h
  · have hlow : 65 ≤ c.toNat := h.1
    have hhigh : c.toNat ≤ 90 := h.2
    have hletter := letters ⟨c.toNat - 65, by omega⟩
    dsimp only at hletter
    rw [Nat.add_sub_cancel' hlow, Char.ofNat_toNat] at hletter
    rwa [show c.toNat + 32 = 97 + (c.toNat - 65) by omega]
  · exact refl c

theorem lowerChar_foldAscii (c : Char) : lowerChar (foldAscii c) = lowerChar c :=
  foldAscii_rel (P := fun c d => lowerChar d = lowerChar c) (fun _ => rfl)
    (by decide +kernel) c

theorem foldAscii_eq_sigma_iff (c : Char) : foldAscii c = 'Σ' ↔ c = 'Σ' :=
  foldAscii_rel (P := fun c d => d = 'Σ' ↔ c = 'Σ') (fun _ => Iff.rfl) (by decide) c

/-- A character between ranges is in none of them. -/
theorem contains_eq_false_of_apart {ranges : Ranges} {low high : Nat}
    (h : (ranges.all fun range => Nat.blt range.2 low || Nat.blt high range.1) = true) {c : Char}
    (hlow : low ≤ c.toNat) (hhigh : c.toNat ≤ high) : ranges.contains c = false := by
  rw [← Bool.not_eq_true, Ranges.contains_iff]
  rintro ⟨range, hrange, hfirst, hlast⟩
  have hapart := List.all_eq_true.mp h range hrange
  rw [Bool.or_eq_true, Nat.blt_eq, Nat.blt_eq] at hapart
  omega

theorem isCaseIgnorable_foldAscii (c : Char) :
    caseIgnorableRanges.contains (foldAscii c) = caseIgnorableRanges.contains c := by
  refine foldAscii_rel (P := fun c d => caseIgnorableRanges.contains d =
    caseIgnorableRanges.contains c) (fun _ => rfl) (fun k => ?_) c
  have hcapital : (Char.ofNat (65 + k)).toNat = 65 + k := by revert k; decide
  have hsmall : (Char.ofNat (97 + k)).toNat = 97 + k := by revert k; decide
  have hk := k.isLt
  have hcapitals : (caseIgnorableRanges.all fun range =>
      Nat.blt range.2 65 || Nat.blt 90 range.1) = true := by decide +kernel
  have hsmalls : (caseIgnorableRanges.all fun range =>
      Nat.blt range.2 97 || Nat.blt 122 range.1) = true := by decide +kernel
  rw [contains_eq_false_of_apart hsmalls (by omega) (by omega),
    contains_eq_false_of_apart hcapitals (by omega) (by omega)]

theorem isCased_foldAscii (c : Char) :
    casedRanges.contains (foldAscii c) = casedRanges.contains c :=
  foldAscii_rel (P := fun c d => casedRanges.contains d = casedRanges.contains c)
    (fun _ => rfl) (by decide +kernel) c

theorem meetsCased_map_foldAscii (cs : List Char) :
    meetsCased (cs.map foldAscii) = meetsCased cs := by
  have hignorable : caseIgnorableRanges.contains ∘ foldAscii = caseIgnorableRanges.contains :=
    funext isCaseIgnorable_foldAscii
  unfold meetsCased
  rw [List.dropWhile_map, hignorable]
  cases cs.dropWhile caseIgnorableRanges.contains with
  | nil => rfl
  | cons c rest => exact isCased_foldAscii c

theorem lowerAfter_map_foldAscii (before cs : List Char) :
    lowerAfter (before.map foldAscii) (cs.map foldAscii) = lowerAfter before cs := by
  induction cs generalizing before with
  | nil => rfl
  | cons c cs ih =>
    have hsigma : lowerSigma (before.map foldAscii) (cs.map foldAscii) = lowerSigma before cs := by
      unfold lowerSigma
      rw [meetsCased_map_foldAscii, meetsCased_map_foldAscii]
    rw [List.map_cons]
    unfold lowerAfter
    rw [hsigma, lowerChar_foldAscii, ← List.map_cons, ih]
    simp only [foldAscii_eq_sigma_iff]

theorem lower_map_foldAscii (cs : List Char) : lower (cs.map foldAscii) = lower cs :=
  lowerAfter_map_foldAscii [] cs

/-- Strings that are equal but for the case of the letters A to Z are equal in lower case. -/
theorem lowerString_eq_of_equalIgnoringCase {s t : String} (h : equalIgnoringCase s t = true) :
    lowerString s = lowerString t := by
  unfold equalIgnoringCase at h
  unfold lowerString
  rw [← lower_map_foldAscii s.toList, eq_of_beq h, lower_map_foldAscii]

/-! ## Marks between words -/

/-- The mark stays in lower case, and what stands on one side of it makes no difference to the case
of what stands on the other. -/
structure Divides (mark : Char) : Prop where
  lowered : IsLowered mark
  noticed : caseIgnorableRanges.contains mark = false
  uncased : casedRanges.contains mark = false

variable {mark : Char}

theorem divides_underscore : Divides '_' :=
  ⟨⟨by decide +kernel, by decide⟩, by decide +kernel, by decide +kernel⟩

theorem Divides.meetsCased_append (h : Divides mark) (cs ds : List Char) :
    meetsCased (cs ++ mark :: ds) = meetsCased cs := by
  unfold meetsCased
  rw [List.dropWhile_append]
  cases cs.dropWhile caseIgnorableRanges.contains with
  | nil => simp [h.noticed, h.uncased]
  | cons c rest => rfl

theorem Divides.lowerAfter_append_before (h : Divides mark) (near far cs : List Char) :
    lowerAfter (near ++ mark :: far) cs = lowerAfter near cs := by
  induction cs generalizing near with
  | nil => rfl
  | cons c cs ih =>
    unfold lowerAfter lowerSigma
    rw [h.meetsCased_append, ← List.cons_append, ih]

theorem Divides.lowerAfter_append (h : Divides mark) (before cs ds : List Char) :
    lowerAfter before (cs ++ mark :: ds) = lowerAfter before cs ++ mark :: lower ds := by
  induction cs generalizing before with
  | nil =>
    have hrest : lowerAfter (mark :: before) ds = lower ds :=
      h.lowerAfter_append_before [] before ds
    show (if mark = 'Σ' then _ else lowerChar mark) ++ lowerAfter (mark :: before) ds = _
    rw [if_neg h.lowered.2, h.lowered.1, hrest]
    rfl
  | cons c cs ih =>
    rw [List.cons_append, lowerAfter, lowerAfter, ih, List.append_assoc]
    unfold lowerSigma
    rw [h.meetsCased_append]

theorem Divides.lower_append (h : Divides mark) (cs ds : List Char) :
    lower (cs ++ mark :: ds) = lower cs ++ mark :: lower ds :=
  h.lowerAfter_append [] cs ds

theorem Divides.lower_intercalate (h : Divides mark) (parts : List (List Char)) :
    lower (List.intercalate [mark] parts) = List.intercalate [mark] (parts.map lower) := by
  induction parts with
  | nil => rfl
  | cons part parts ih =>
    cases parts with
    | nil => simp
    | cons next parts =>
      rw [List.intercalate_cons_cons, List.append_assoc, List.singleton_append, h.lower_append, ih]
      simp [List.intercalate_cons_cons]

end SnowflakeSql.Text
