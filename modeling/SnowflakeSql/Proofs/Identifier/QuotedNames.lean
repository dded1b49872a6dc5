import SnowflakeSql.Proofs.Identifier.Agreement
import SnowflakeSql.Proofs.Identifier.Separator

/-!
# Tables named with quotes

A name that stands in quotes already is put between quotes once more, and its own quotes are
doubled: what is read back is the name with its quotes (`ofPart_enclose`).  The catalogue is
asked for the name without them (`storedName_encloseString`).  So a table that is created by a
quoted name is never found by it (`namedAs_of_quoted`).
-/

namespace SnowflakeSql

open Text Identifier

/-! ## Names in quotes -/

theorem trim_enclose (cs : List Char) : trim (enclose '"' cs) = enclose '"' cs := by
  have hblank : isBlank '"' = false := by decide
  have hstart : (enclose '"' cs).dropWhile isBlank = enclose '"' cs :=
    List.dropWhile_cons_of_neg (by simp [hblank])
  have hreverse : (enclose '"' cs).reverse = '"' :: ((double '"' cs).reverse ++ ['"']) := by
    simp [enclose]
  unfold trim trimEnd
  rw [hstart, hreverse, List.dropWhile_cons_of_neg (by simp [hblank]), ← hreverse,
    List.reverse_reverse]

theorem storedChars_enclose (cs : List Char) : storedChars (enclose '"' cs) = cs := by
  have hunquoted : unquoted? (enclose '"' cs) = some (double '"' cs) := by
    show (if (double '"' cs ++ ['"']).getLast? = some '"' then
      some (double '"' cs ++ ['"']).dropLast else none) = _
    rw [List.getLast?_concat, if_pos rfl, List.dropLast_concat]
  unfold storedChars
  rw [trim_enclose, hunquoted]
  exact halve_double '"' cs

theorem storedName_encloseString (inner : String) :
    storedName (encloseString '"' inner) = inner := by
  unfold storedName encloseString
  rw [String.toList_ofList, storedChars_enclose, String.ofList_toList]

theorem encloseString_ne_self (inner : String) : encloseString '"' inner ≠ inner := by
  intro h
  have hlength := congrArg (fun s => s.toList.length) h
  simp only [toList_encloseString, enclose, List.length_cons, List.length_append, List.length_nil,
    length_double] at hlength
  omega

theorem ofPart_enclose (cs : List Char) :
    Segment.ofPart (enclose '"' cs) = .name (String.ofList (enclose '"' cs)) := by
  have hfold : Naming.fold (enclose '"' cs) = enclose '"' cs := if_pos rfl
  unfold Segment.ofPart Segment.ofText
  rw [trim_enclose, hfold]
  refine if_neg fun htext => ?_
  have hchars := congrArg String.toList htext
  rw [String.toList_ofList] at hchars
  cases hchars

theorem mem_double {mark c : Char} {cs : List Char} (h : c ∈ double mark cs) : c ∈ cs := by
  induction cs with
  | nil => exact h
  | cons d cs ih =>
    unfold double at h
    split_ifs at h with hd
    · rw [List.mem_cons, List.mem_cons] at h
      rcases h with rfl | rfl | h
      · exact hd ▸ List.mem_cons_self
      · exact hd ▸ List.mem_cons_self
      · exact List.mem_cons_of_mem d (ih h)
    · rcases List.mem_cons.mp h with rfl | h
      · exact List.mem_cons_self
      · exact List.mem_cons_of_mem d (ih h)

theorem dot_not_mem_enclose {cs : List Char} (h : '.' ∉ cs) : '.' ∉ enclose '"' cs := by
  intro hmem
  unfold enclose at hmem
  rw [List.mem_cons, List.mem_append, List.mem_singleton] at hmem
  rcases hmem with hquote | hdouble | hquote
  · exact absurd hquote (by decide)
  · exact h (mem_double hdouble)
  · exact absurd hquote (by decide)

/-! ## No alias across a mark -/

/-- The character takes no part in the word that separates an alias. -/
structure Outside (c : Char) : Prop where
  blank : isBlank c = false
  letterA : isLetterA c = false
  letterS : isLetterS c = false

theorem afterAlias?_of_not_blank {c : Char} (h : isBlank c = false) (cs : List Char) :
    afterAlias? (c :: cs) = none := by
  unfold afterAlias?
  dsimp only
  rw [h]
  rfl

theorem afterAlias?_append {c : Char} (hc : Outside c) {cs : List Char} (hne : cs ≠ [])
    (h : afterAlias? cs = none) (ds : List Char) : afterAlias? (cs ++ c :: ds) = none := by
  obtain ⟨d, cs, rfl⟩ := List.exists_cons_of_ne_nil hne
  have hmark : (c :: ds).dropWhile isBlank = c :: ds :=
    List.dropWhile_cons_of_neg (by simp [hc.blank])
  rw [List.cons_append]
  unfold afterAlias? at h ⊢
  dsimp only at h ⊢
  split_ifs at h ⊢ with hd
  · rw [← List.cons_append, List.dropWhile_append, hmark]
    -- The mark comes first, second or third after the blanks, or the word ends before it.
    rcases hrest : (d :: cs).dropWhile isBlank with _ | ⟨a, _ | ⟨s, _ | ⟨b, rest⟩⟩⟩
    · rcases ds with _ | ⟨s, _ | ⟨b, ds⟩⟩ <;> simp [hc.letterA]
    · rcases ds with _ | ⟨b, ds⟩ <;> simp [hc.letterS]
    · simp [hc.blank]
    · rw [hrest] at h
      simpa using h
  · rfl

/-- Texts without an alias have none when they are put on both sides of a mark. -/
theorem splitAlias?_append {c : Char} (hc : Outside c) {cs ds : List Char}
    (hcs : splitAlias? cs = none) (hds : splitAlias? ds = none) :
    splitAlias? (cs ++ c :: ds) = none := by
  induction cs with
  | nil =>
    exact splitAlias?_cons_eq_none.mpr ⟨afterAlias?_of_not_blank hc.blank ds, hds⟩
  | cons d cs ih =>
    obtain ⟨hafter, hrest⟩ := splitAlias?_cons_eq_none.mp hcs
    exact splitAlias?_cons_eq_none.mpr
      ⟨afterAlias?_append hc (List.cons_ne_nil d cs) hafter ds, ih hrest⟩

theorem splitAlias?_enclose {cs : List Char} (h : splitAlias? (double '"' cs) = none) :
    splitAlias? (enclose '"' cs) = none := by
  have hquote : Outside '"' := by constructor <;> decide
  have hend : splitAlias? (double '"' cs ++ ['"']) = none := splitAlias?_append hquote h rfl
  exact splitAlias?_cons_eq_none.mpr ⟨afterAlias?_of_not_blank hquote.blank _, hend⟩

/-! ## The two names of a quoted table -/

section Qualified

variable {schema : Option String} {name : String}

theorem toList_qualify_some (s : String) (h : '.' ∉ name.toList) :
    (qualify (some s) name).toList = s.toList ++ '.' :: name.toList := by
  unfold qualify
  dsimp only
  rw [if_neg h]
  simp

theorem splitOn_qualify (hschema : ∀ s, schema = some s → '.' ∉ s.toList)
    (hname : '.' ∉ name.toList) :
    splitOn '.' (qualify schema name).toList = (schema.toList ++ [name]).map String.toList := by
  cases schema with
  | none => exact splitOn_of_not_mem hname
  | some s =>
    rw [toList_qualify_some s hname, splitOn_append_mark (hschema s rfl),
      splitOn_of_not_mem hname]
    rfl

theorem storedPath_qualify (schema : Option String) (h : '.' ∉ name.toList) :
    storedPath (qualify schema name) = schema.toList.map storedName ++ [storedName name] := by
  unfold storedPath
  cases schema with
  | none => rw [qualify_none, splitQualified_of_not_mem h]; rfl
  | some s =>
    rw [splitQualified_of_eq (toList_qualify_some s h) h, String.ofList_toList,
      String.ofList_toList]
    rfl

theorem splitAlias?_qualify (hschema : ∀ s, schema = some s → splitAlias? s.toList = none)
    (hdot : '.' ∉ name.toList) (hname : splitAlias? name.toList = none) :
    splitAlias? (qualify schema name).toList = none := by
  cases schema with
  | none => exact hname
  | some s =>
    have houtside : Outside '.' := by constructor <;> decide
    rw [toList_qualify_some s hdot]
    exact splitAlias?_append houtside (hschema s rfl) hname

end Qualified

/-- Statements on a quoted table spell its quotes as part of the name, and the catalogue is
asked for the name without them, which is another one. -/
theorem namedAs_of_quoted (schema : Option String) (inner : String)
    (hschema : ∀ s, schema = some s → PlainName s) (hdot : '.' ∉ inner.toList)
    (halias : splitAlias? (double '"' inner.toList) = none) :
    NamedAs schema (encloseString '"' inner)
        (schema.toList.map storedName ++ [encloseString '"' inner])
        (schema.toList.map storedName ++ [inner]) ∧
      encloseString '"' inner ≠ inner := by
  refine ⟨?_, encloseString_ne_self inner⟩
  have hname : (encloseString '"' inner).toList = enclose '"' inner.toList := String.toList_ofList
  have hnameDot : '.' ∉ (encloseString '"' inner).toList := hname ▸ dot_not_mem_enclose hdot
  have hnameAlias : splitAlias? (encloseString '"' inner).toList = none :=
    hname ▸ splitAlias?_enclose halias
  have hpart : Segment.ofPart (encloseString '"' inner).toList =
      .name (encloseString '"' inner) := by
    rw [hname, ofPart_enclose]
    rfl
  have hschemaPart : ∀ s, schema = some s →
      Segment.ofPart s.toList = .name (storedName s) := fun s hs =>
    ofPart_eq_name (hschema s hs).unquoted (hschema s hs).named
  have hwrap : Naming.folded.wrap none (qualify schema (encloseString '"' inner)) =
      spelledPath ((schema.toList.map storedName ++ [encloseString '"' inner]).map .name) := by
    rw [wrap_eq_spelledPath none
        (splitAlias?_qualify (fun s hs => (hschema s hs).unaliased) hnameDot hnameAlias),
      splitOn_qualify (fun s hs => (hschema s hs).undotted) hnameDot]
    cases schema with
    | none => exact congrArg (fun segment => spelledPath [segment]) hpart
    | some s =>
      exact congrArg₂ (fun first last => spelledPath [first, last]) (hschemaPart s rfl) hpart
  have hstored := storedPath_qualify schema hnameDot
  rw [storedName_encloseString] at hstored
  rw [← hstored]
  cases schema with
  | none => exact namedAs_of_wrap hwrap
  | some s => exact namedAs_of_wrap hwrap

theorem namedAs_of_quoted_mixed :
    NamedAs none "\"Mixed\"" ["\"Mixed\""] ["Mixed"] ∧ "\"Mixed\"" ≠ "Mixed" :=
  namedAs_of_quoted none "Mixed" (fun _ h => nomatch h) (by decide) (by decide +kernel)

end SnowflakeSql
