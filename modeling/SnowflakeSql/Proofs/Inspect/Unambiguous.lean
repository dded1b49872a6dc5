import Mathlib.Data.List.Forall2
import SnowflakeSql.Inspect.Basic
import SnowflakeSql.Proofs.Text.Runs

/-!
# Inspection texts are unambiguous

An inspection text tells what was inspected, and where it ends (`Unambiguous`): two of them are not
the same, nor is one the beginning of another, unless the things are the same.  So it is with quoted
strings, since escapes keep what they stand for (`charText_append_inj`), with truth values and with
what may be absent.  A record that is not shown whole tells the texts of all its fields
(`record_append_inj`).
-/

namespace SnowflakeSql.Inspect

open Text

/-- Of two texts neither is the beginning of the other, unless they are the same. -/
def Separate (text text' : String) : Prop := ∀ rest rest' : List Char,
  text.toList ++ rest = text'.toList ++ rest' → text = text'

/-- A text with anything behind it tells what it is the text of. -/
def Unambiguous {α : Type} (text : α → String) : Prop := ∀ (x y : α) (rest rest' : List Char),
  (text x).toList ++ rest = (text y).toList ++ rest' → x = y

theorem Unambiguous.eq {α : Type} {text : α → String} (h : Unambiguous text) {x y : α}
    (heq : text x = text y) : x = y := h x y [] [] (congrArg (·.toList ++ []) heq)

theorem Unambiguous.separate {α : Type} {text : α → String} (h : Unambiguous text) (x y : α) :
    Separate (text x) (text y) := fun rest rest' heq => congrArg text (h x y rest rest' heq)

/-! ## Digits -/

theorem digitChar_inj : ∀ n < 16, ∀ m < 16, n.digitChar = m.digitChar → n = m := by decide

theorem digitChar_ne_brace : ∀ n < 16, n.digitChar ≠ '\x7d' := by decide

theorem toDigits_inj {n m : Nat} (h : Nat.toDigits 16 n = Nat.toDigits 16 m) : n = m := by
  induction n using Nat.strongRecOn generalizing m with
  | ind n ih =>
    have hmod := fun k => Nat.mod_lt k (by decide : 16 > 0)
    have hlast : ∀ (cs ds : List Char) {c d : Char}, cs ++ [c] = ds ++ [d] → cs = ds ∧ c = d :=
      fun _ _ _ _ heq =>
        ⟨(List.append_inj' heq rfl).1, List.singleton_inj.mp (List.append_inj' heq rfl).2⟩
    by_cases hn : n < 16 <;> by_cases hm : m < 16
    · rw [Nat.toDigits_of_lt_base hn, Nat.toDigits_of_lt_base hm] at h
      exact digitChar_inj n hn m hm (List.singleton_inj.mp h)
    · rw [Nat.toDigits_of_lt_base hn, Nat.toDigits_of_base_le (by decide) (Nat.not_lt.mp hm)] at h
      exact absurd (hlast [] _ h).1.symm Nat.toDigits_ne_nil
    · rw [Nat.toDigits_of_base_le (by decide) (Nat.not_lt.mp hn), Nat.toDigits_of_lt_base hm] at h
      exact absurd (hlast _ [] h).1 Nat.toDigits_ne_nil
    · rw [Nat.toDigits_of_base_le (by decide) (Nat.not_lt.mp hn),
        Nat.toDigits_of_base_le (by decide) (Nat.not_lt.mp hm)] at h
      obtain ⟨hrest, hdigit⟩ := hlast _ _ h
      have hquotient : n / 16 = m / 16 := ih (n / 16) (by omega) hrest
      have hremainder := digitChar_inj _ (hmod n) _ (hmod m) hdigit
      omega

theorem brace_not_mem_toDigits (n : Nat) : '\x7d' ∉ Nat.toDigits 16 n := by
  induction n using Nat.strongRecOn with
  | ind n ih =>
    by_cases hn : n < 16
    · rw [Nat.toDigits_of_lt_base hn, List.mem_singleton]
      exact (digitChar_ne_brace n hn).symm
    · rw [Nat.toDigits_of_base_le (by decide) (Nat.not_lt.mp hn), List.mem_append,
        List.mem_singleton, not_or]
      exact ⟨ih (n / 16) (by omega), (digitChar_ne_brace _ (Nat.mod_lt n (by decide))).symm⟩

/-! ## Strings -/

/-- The letter that stands behind a backslash for the character. -/
def escape? : Char → Option Char
  | '"' => some '"'
  | '\\' => some '\\'
  | '\n' => some 'n'
  | '\r' => some 'r'
  | '\t' => some 't'
  | '\x00' => some '0'
  | _ => none

/-- The three ways in which a character is shown: by a letter, by its number and as it is. -/
inductive Shown (c : Char) : List Char → Prop
  | letter {e : Char} : escape? c = some e → Shown c ['\\', e]
  | number : Shown c (['\\', 'u', '\x7b'] ++ Nat.toDigits 16 c.toNat ++ ['\x7d'])
  | plain : c ≠ '\\' → c ≠ '"' → Shown c [c]

theorem shown_charText (c : Char) : Shown c (charText c) := by
  unfold charText
  split
  · exact .letter rfl
  · exact .letter rfl
  · exact .letter rfl
  · exact .letter rfl
  · exact .letter rfl
  · exact .letter rfl
  · next hquote hslash _ _ _ _ =>
    split_ifs
    · exact .number
    · exact .plain hslash hquote

theorem escape?_inj {c d e : Char} (hc : escape? c = some e) (hd : escape? d = some e) : c = d := by
  unfold escape? at hc hd
  split at hc <;> cases hc <;> split at hd <;> first | rfl | cases hd

theorem escape?_ne_u {c : Char} : escape? c ≠ some 'u' := by
  unfold escape?
  split <;> decide

/-- The number of a character is told from what follows its closing brace. -/
theorem number_append_inj {c d : Char} {rest rest' : List Char}
    (h : Nat.toDigits 16 c.toNat ++ '\x7d' :: rest = Nat.toDigits 16 d.toNat ++ '\x7d' :: rest') :
    c = d ∧ rest = rest' := by
  obtain ⟨hdigits, hrest⟩ :=
    append_mark_inj (brace_not_mem_toDigits c.toNat) (brace_not_mem_toDigits d.toNat) h
  exact ⟨Char.toNat_inj.mp (toDigits_inj hdigits), hrest⟩

theorem Shown.append_inj {c d : Char} {cs ds rest rest' : List Char} (hc : Shown c cs)
    (hd : Shown d ds) (h : cs ++ rest = ds ++ rest') : c = d ∧ rest = rest' := by
  cases hc with
  | letter hc =>
    simp only [List.cons_append, List.nil_append] at h
    cases hd with
    | letter hd =>
      cases h
      exact ⟨escape?_inj hc hd, rfl⟩
    | number =>
      cases h
      exact absurd hc escape?_ne_u
    | plain hslash _ =>
      cases h
      exact absurd rfl hslash
  | number =>
    simp only [List.cons_append, List.nil_append, List.append_assoc] at h
    cases hd with
    | letter hd =>
      cases h
      exact absurd hd escape?_ne_u
    | number =>
      simp only [List.cons_append, List.nil_append, List.append_assoc, List.cons.injEq,
        true_and] at h
      exact number_append_inj h
    | plain hslash _ =>
      cases h
      exact absurd rfl hslash
  | plain hslash _ =>
    cases hd with
    | letter | number =>
      cases h
      exact absurd rfl hslash
    | plain =>
      cases h
      exact ⟨rfl, rfl⟩

theorem charText_append_inj {c d : Char} {rest rest' : List Char}
    (h : charText c ++ rest = charText d ++ rest') : c = d ∧ rest = rest' :=
  (shown_charText c).append_inj (shown_charText d) h

theorem charText_append_ne_quote (c : Char) (rest rest' : List Char) :
    charText c ++ rest ≠ '"' :: rest' := by
  intro h
  have hshown := shown_charText c
  generalize charText c = cs at h hshown
  cases hshown with
  | letter | number => cases h
  | plain _ hquote =>
    cases h
    exact hquote rfl

/-- A quoted string is over at the first quotation mark that no backslash stands before. -/
theorem flatMap_charText_append_inj {cs ds rest rest' : List Char}
    (h : cs.flatMap charText ++ '"' :: rest = ds.flatMap charText ++ '"' :: rest') :
    cs = ds := by
  induction cs generalizing ds with
  | nil =>
    cases ds with
    | nil => rfl
    | cons d ds =>
      rw [List.flatMap_cons, List.append_assoc] at h
      exact absurd h.symm (charText_append_ne_quote d _ _)
  | cons c cs ih =>
    rw [List.flatMap_cons, List.append_assoc] at h
    cases ds with
    | nil => exact absurd h (charText_append_ne_quote c _ _)
    | cons d ds =>
      rw [List.flatMap_cons, List.append_assoc] at h
      obtain ⟨rfl, hrest⟩ := charText_append_inj h
      rw [ih hrest]

theorem unambiguous_string : Unambiguous string := by
  intro s t rest rest' h
  unfold string at h
  rw [String.toList_ofList, String.toList_ofList, List.cons_append, List.cons_append,
    List.append_assoc, List.append_assoc] at h
  exact String.toList_inj.mp (flatMap_charText_append_inj (List.cons.inj h).2)

/-! ## What may be absent -/

theorem unambiguous_bool : Unambiguous bool := by
  intro b b' rest rest' h
  cases b <;> cases b' <;> first | rfl | cases h

theorem Unambiguous.option {α : Type} {text : α → String} (h : Unambiguous text) :
    Unambiguous (option text) := by
  intro x y rest rest' heq
  cases x with
  | none =>
    cases y with
    | none => rfl
    | some y => simp [Inspect.option, apply] at heq
  | some x =>
    cases y with
    | none => simp [Inspect.option, apply] at heq
    | some y =>
      simp only [Inspect.option, apply, String.toList_append, List.append_assoc] at heq
      exact congrArg some (h x y _ _ (List.append_cancel_left (List.append_cancel_left heq)))

/-! ## Records -/

theorem commaJoin_concat (parts : List String) (last : String) :
    commaJoin (parts ++ [last]) = String.join (parts.map (· ++ ", ")) ++ last := by
  induction parts with
  | nil => simp [commaJoin]
  | cons part parts ih =>
    obtain ⟨next, rest, hrest⟩ := List.exists_cons_of_ne_nil
      (List.append_ne_nil_of_right_ne_nil parts (List.cons_ne_nil last []))
    rw [List.cons_append, hrest]
    unfold commaJoin at ih ⊢
    rw [String.intercalate_cons_cons, ← hrest, ih, List.map_cons, String.join_cons]
    simp only [String.append_assoc]

/-- The text of a field, with what stands between it and what follows. -/
def fieldText (field : String × String) : String := field.1 ++ ": " ++ field.2 ++ ", "

theorem record_eq (name : String) (fields : List (String × String)) :
    record name fields false =
      name ++ " \x7b " ++ String.join (fields.map fieldText) ++ ".. \x7d" := by
  unfold record braces
  dsimp only
  rw [if_neg Bool.false_ne_true, commaJoin_concat, List.map_map, ← String.toList_inj]
  simp only [String.toList_append, List.append_assoc]
  rfl

/-- Both fields have the same name, and their texts are told apart. -/
structure SeparateFields (field field' : String × String) : Prop where
  name : field.1 = field'.1
  text : Separate field.2 field'.2

theorem join_fieldText_append_inj {fields fields' : List (String × String)}
    (h : List.Forall₂ SeparateFields fields fields') {rest rest' : List Char}
    (heq : (String.join (fields.map fieldText)).toList ++ rest =
      (String.join (fields'.map fieldText)).toList ++ rest') : fields = fields' := by
  induction h with
  | nil => rfl
  | @cons field field' fields fields' hfield _ ih =>
    obtain ⟨key, text⟩ := field
    obtain ⟨key', text'⟩ := field'
    obtain ⟨rfl, htext⟩ := hfield
    simp only [List.map_cons, String.join_cons, fieldText, String.toList_append,
      List.append_assoc] at heq
    have hfront := List.append_cancel_left (List.append_cancel_left heq)
    obtain rfl : text = text' := htext _ _ hfront
    rw [ih (List.append_cancel_left (List.append_cancel_left hfront))]

/-- Two records with the same fields, whose texts are told apart, tell these texts. -/
theorem record_append_inj {name : String} {fields fields' : List (String × String)}
    (h : List.Forall₂ SeparateFields fields fields') {rest rest' : List Char}
    (heq : (record name fields false).toList ++ rest =
      (record name fields' false).toList ++ rest') : fields = fields' := by
  rw [record_eq, record_eq] at heq
  simp only [String.toList_append, List.append_assoc] at heq
  exact join_fieldText_append_inj h (List.append_cancel_left (List.append_cancel_left heq))

/-- Records whose fields have the same names and are inspected in one way tell their fields. -/
theorem record_map_append_inj {α : Type} {text : α → String} (htext : Unambiguous text)
    {name : String} {fields fields' : List (String × α)}
    (hkeys : fields.map Prod.fst = fields'.map Prod.fst) {rest rest' : List Char}
    (heq : (record name (fields.map (Prod.map id text)) false).toList ++ rest =
      (record name (fields'.map (Prod.map id text)) false).toList ++ rest') : fields = fields' := by
  have hpairs : List.Forall₂ (fun field field' => field.1 = field'.1) fields fields' :=
    List.forall₂_map_left_iff.mp (List.forall₂_map_right_iff.mp
      (List.forall₂_eq_eq_eq ▸ hkeys))
  have hfields : List.Forall₂ SeparateFields (fields.map (Prod.map id text))
      (fields'.map (Prod.map id text)) := by
    rw [List.forall₂_map_left_iff, List.forall₂_map_right_iff]
    exact hpairs.imp fun field field' hname => ⟨hname, htext.separate field.2 field'.2⟩
  refine List.map_injective_iff.mpr ?_ (record_append_inj hfields heq)
  rintro ⟨key, x⟩ ⟨key', y⟩ hfield
  obtain ⟨hname, htexts⟩ := Prod.mk.inj hfield
  exact Prod.ext hname (htext.eq htexts)

end SnowflakeSql.Inspect
