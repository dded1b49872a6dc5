import Mathlib.Data.List.Forall2
import SnowflakeSql.Proofs.Identifier.Reading
import SnowflakeSql.Proofs.Identifier.Separator

/-!
# Reading whole identifiers

An `Item` is what an identifier stands for in SQL: a path of segments and perhaps a label, which
follows the word "as".  `readItem?` reads one off the front of a text.  It reads a text to its
last character exactly if that is the spelling of the item (`readItem?_eq_some_nil_iff`), where
every name stands between quotes and its own quotes are doubled: nothing of a name is read as
anything else.

`Item.Denotes` says which item an identifier means.  It is cut at its leftmost separator, what
stands before that at its dots, and each part means one segment (`Decodes`).
`readsBack_wrap` is the result: whatever the identifier, its spelling is read as that item.
-/

namespace SnowflakeSql

open Text Identifier

/-! ## What was read is what stood there -/

theorem double_of_readBody? {mark : Char} {cs body rest : List Char}
    (h : readBody? mark cs = some (body, rest)) : cs = double mark body ++ mark :: rest := by
  fun_induction readBody? mark cs generalizing body rest with
  | case1 => cases h
  | case2 =>
    cases h
    rfl
  | case3 => cases h
  | case4 cs ih =>
    obtain ⟨⟨body', rest'⟩, hread, hpair⟩ := Option.map_eq_some_iff.mp h
    cases hpair
    rw [double_cons_mark, List.cons_append, List.cons_append, ← ih hread]
  | case5 d cs hd =>
    cases h
    rfl
  | case6 c d cs hc ih =>
    obtain ⟨⟨body', rest'⟩, hread, hpair⟩ := Option.map_eq_some_iff.mp h
    cases hpair
    rw [double_cons_of_ne hc, List.cons_append, ← ih hread]

theorem enclose_of_readEnclosed? {mark : Char} {cs body rest : List Char}
    (h : readEnclosed? mark cs = some (body, rest)) : cs = enclose mark body ++ rest := by
  cases cs with
  | nil => cases h
  | cons c cs =>
    have hread : (if c = mark then readBody? mark cs else none) = some (body, rest) := h
    split_ifs at hread with hc
    rw [double_of_readBody? hread, hc]
    simp [enclose]

theorem spelled_of_readSegment? {cs rest : List Char} {segment : Segment}
    (h : readSegment? cs = some (segment, rest)) : cs = segment.spelled.toList ++ rest := by
  unfold readSegment? at h
  split at h
  · cases h
    rfl
  · obtain ⟨⟨body, rest'⟩, hread, hpair⟩ := Option.map_eq_some_iff.mp h
    cases hpair
    have hspelled : (Segment.name (String.ofList body)).spelled.toList = enclose '"' body := by
      show (String.ofList (enclose '"' (String.ofList body).toList)).toList = _
      rw [String.toList_ofList, String.toList_ofList]
    rw [hspelled]
    exact enclose_of_readEnclosed? hread

theorem spelledPath_cons {segment : Segment} {segments : List Segment} (hne : segments ≠ []) :
    (spelledPath (segment :: segments)).toList =
      segment.spelled.toList ++ '.' :: (spelledPath segments).toList := by
  obtain ⟨next, segments, rfl⟩ := List.exists_cons_of_ne_nil hne
  simp [spelledPath, String.intercalate_cons_cons]

theorem spelledPath_of_readPath? {cs rest : List Char} {segments : List Segment}
    (h : readPath? cs = some (segments, rest)) :
    segments ≠ [] ∧ cs = (spelledPath segments).toList ++ rest := by
  fun_induction readPath? cs generalizing segments rest with
  | case1 => cases h
  | case2 cs segment rest' hsegment ih =>
    obtain ⟨⟨segments', rest''⟩, hread, hpair⟩ := Option.map_eq_some_iff.mp h
    cases hpair
    obtain ⟨hne, htext⟩ := ih hread
    refine ⟨List.cons_ne_nil _ _, ?_⟩
    rw [spelledPath_cons hne, spelled_of_readSegment? hsegment, htext]
    simp
  | case3 cs segment rest' _ hsegment =>
    cases h
    exact ⟨List.cons_ne_nil _ _, spelled_of_readSegment? hsegment⟩

/-! ## Items -/

/-- What an identifier stands for. -/
structure Item where
  path : List Segment
  /-- The name that it goes by. -/
  label : Option Segment
  deriving DecidableEq, Repr

/-- The text of an item in SQL. -/
def Item.spelled (item : Item) : String :=
  spelledPath item.path ++ match item.label with
    | some label => " as " ++ label.spelled
    | none => ""

/-- Reads a label, after the word that announces it. -/
def readLabel? : List Char → Option (Segment × List Char)
  | ' ' :: 'a' :: 's' :: ' ' :: rest => readSegment? rest
  | _ => none

/-- Reads an item, with its label if there is one, and gives what follows it. -/
def readItem? (cs : List Char) : Option (Item × List Char) :=
  (readPath? cs).map fun (path, rest) =>
    match readLabel? rest with
    | some (label, rest) => (⟨path, some label⟩, rest)
    | none => (⟨path, none⟩, rest)

theorem spelled_of_readLabel? {cs rest : List Char} {label : Segment}
    (h : readLabel? cs = some (label, rest)) : cs = (" as " ++ label.spelled).toList ++ rest := by
  unfold readLabel? at h
  split at h
  · rw [spelled_of_readSegment? h]
    simp
  · cases h

/-- A spelled item is read back, up to what ends it. -/
theorem readItem?_spelled {item : Item} (hne : item.path ≠ []) {rest : List Char}
    (hquote : rest.head? ≠ some '"') (hdot : rest.head? ≠ some '.')
    (hlabel : readLabel? rest = none) :
    readItem? (item.spelled.toList ++ rest) = some (item, rest) := by
  obtain ⟨path, label⟩ := item
  unfold readItem? Item.spelled
  rw [String.toList_append, List.append_assoc]
  cases label with
  | none =>
    have hread := readPath?_spelledPath hne hquote hdot
    dsimp only
    rw [show "".toList = [] from rfl, List.nil_append, hread, Option.map_some]
    dsimp only
    rw [hlabel]
  | some label =>
    have hafter : (" as " ++ label.spelled).toList ++ rest =
        ' ' :: 'a' :: 's' :: ' ' :: (label.spelled.toList ++ rest) := by simp
    have hread : readPath? ((spelledPath path).toList ++
        ((" as " ++ label.spelled).toList ++ rest)) =
          some (path, (" as " ++ label.spelled).toList ++ rest) :=
      readPath?_spelledPath hne (by simp) (by simp)
    have hword : readLabel? ((" as " ++ label.spelled).toList ++ rest) = some (label, rest) := by
      rw [hafter]
      exact readSegment?_spelled label hquote
    dsimp only
    rw [hread, Option.map_some]
    dsimp only
    rw [hword]

theorem spelled_of_readItem? {cs rest : List Char} {item : Item}
    (h : readItem? cs = some (item, rest)) :
    item.path ≠ [] ∧ cs = item.spelled.toList ++ rest := by
  obtain ⟨⟨path, rest'⟩, hpath, hitem⟩ := Option.map_eq_some_iff.mp h
  obtain ⟨hne, htext⟩ := spelledPath_of_readPath? hpath
  dsimp only at hitem
  split at hitem
  · next label rest'' hlabel =>
    cases hitem
    refine ⟨hne, ?_⟩
    rw [htext, spelled_of_readLabel? hlabel]
    simp [Item.spelled]
  · cases hitem
    refine ⟨hne, ?_⟩
    rw [htext]
    simp [Item.spelled]

/-- A text is read whole as an item exactly if it is the spelling of that item. -/
theorem readItem?_eq_some_nil_iff {cs : List Char} {item : Item} :
    readItem? cs = some (item, []) ↔ item.path ≠ [] ∧ cs = item.spelled.toList := by
  constructor
  · intro h
    obtain ⟨hne, htext⟩ := spelled_of_readItem? h
    exact ⟨hne, htext.trans (List.append_nil _)⟩
  · rintro ⟨hne, rfl⟩
    have hread : readItem? (item.spelled.toList ++ []) = some (item, []) :=
      readItem?_spelled hne nofun nofun rfl
    rwa [List.append_nil] at hread

/-! ## What an identifier means -/

/-- The segment that a part of an identifier means.  Blanks around the part do not count; a star
alone is a star, a part that begins with a quote is a name as it stands, and any other is the
name in capitals. -/
structure Decodes (part : List Char) (segment : Segment) : Prop where
  star : segment = .star ↔ trim part = ['*']
  quoted : (trim part).head? = some '"' → segment = .name (String.ofList (trim part))
  folded : (trim part).head? ≠ some '"' → trim part ≠ ['*'] →
    segment = .name (String.ofList (upper (trim part)))

/-- The item that an identifier means: what stands before the leftmost separator is cut at its
dots, what stands after it is the label. -/
inductive Item.Denotes (cs : List Char) : Item → Prop
  | path {path : List Segment} : (∀ lead word rest, Separator word → cs ≠ lead ++ word ++ rest) →
    List.Forall₂ Decodes (splitOn '.' cs) path → Denotes cs ⟨path, none⟩
  | labelled {before after : List Char} {path : List Segment} {label : Segment} :
    LeftmostSplit cs before after → List.Forall₂ Decodes (splitOn '.' before) path →
    Decodes after label → Denotes cs ⟨path, some label⟩

/-- The item that a text is spelled as. -/
def Item.ofText (cs : List Char) : Item :=
  match splitAlias? cs with
  | some (before, after) => ⟨(splitOn '.' before).map .ofPart, some (.ofPart after)⟩
  | none => ⟨(splitOn '.' cs).map .ofPart, none⟩

theorem fold_eq_star_iff (cs : List Char) : Naming.fold cs = ['*'] ↔ cs = ['*'] := by
  unfold Naming.fold
  split_ifs with hquote
  · exact Iff.rfl
  · refine ⟨upper_eq_star, ?_⟩
    rintro rfl
    rfl

theorem ofText_eq_star_iff (text : String) : Segment.ofText text = .star ↔ text = "*" := by
  unfold Segment.ofText
  split_ifs with h <;> simp [h]

theorem decodes_ofPart (part : List Char) : Decodes part (.ofPart part) := by
  have hstar : Segment.ofPart part = .star ↔ trim part = ['*'] := by
    unfold Segment.ofPart
    rw [ofText_eq_star_iff, ← fold_eq_star_iff, ← String.toList_inj, String.toList_ofList]
    rfl
  have hname : trim part ≠ ['*'] →
      Segment.ofPart part = .name (String.ofList (Naming.fold (trim part))) := by
    intro hne
    have htext : String.ofList (Naming.fold (trim part)) ≠ "*" :=
      fun htext => hne (hstar.mp ((ofText_eq_star_iff _).mpr htext))
    exact if_neg htext
  refine ⟨hstar, fun hquote => ?_, fun hquote hne => ?_⟩
  · have hne : trim part ≠ ['*'] := by
      intro hstar
      rw [hstar] at hquote
      cases hquote
    rw [hname hne]
    exact congrArg (fun cs => Segment.name (String.ofList cs)) (if_pos hquote)
  · rw [hname hne]
    exact congrArg (fun cs => Segment.name (String.ofList cs)) (if_neg hquote)

theorem decodes_iff {part : List Char} {segment : Segment} :
    Decodes part segment ↔ segment = .ofPart part := by
  refine ⟨fun h => ?_, fun h => h ▸ decodes_ofPart part⟩
  by_cases hstar : trim part = ['*']
  · rw [h.star.mpr hstar, (decodes_ofPart part).star.mpr hstar]
  · by_cases hquote : (trim part).head? = some '"'
    · rw [h.quoted hquote, (decodes_ofPart part).quoted hquote]
    · rw [h.folded hquote hstar, (decodes_ofPart part).folded hquote hstar]

theorem forall₂_decodes_iff {parts : List (List Char)} {path : List Segment} :
    List.Forall₂ Decodes parts path ↔ path = parts.map .ofPart := by
  induction parts generalizing path with
  | nil => exact List.forall₂_nil_left_iff
  | cons part parts ih =>
    rw [List.forall₂_cons_left_iff]
    constructor
    · rintro ⟨segment, rest, hsegment, hrest, rfl⟩
      rw [decodes_iff.mp hsegment, ih.mp hrest]
      rfl
    · rintro rfl
      exact ⟨_, _, decodes_ofPart part, ih.mpr rfl, rfl⟩

/-- An identifier means one item. -/
theorem denotes_iff {cs : List Char} {item : Item} : item.Denotes cs ↔ item = .ofText cs := by
  unfold Item.ofText
  constructor
  · rintro (⟨hnone, hpath⟩ | ⟨hsplit, hpath, hlabel⟩)
    · rw [splitAlias?_eq_none_iff.mpr hnone, forall₂_decodes_iff.mp hpath]
    · rw [splitAlias?_eq_some_iff.mpr hsplit, forall₂_decodes_iff.mp hpath,
        decodes_iff.mp hlabel]
  · rintro rfl
    split
    · next hsplit =>
      exact .labelled (splitAlias?_eq_some_iff.mp hsplit) (forall₂_decodes_iff.mpr rfl)
        (decodes_ofPart _)
    · next hsplit =>
      exact .path (splitAlias?_eq_none_iff.mp hsplit) (forall₂_decodes_iff.mpr rfl)

theorem path_ofText_ne_nil (cs : List Char) : (Item.ofText cs).path ≠ [] := by
  unfold Item.ofText
  split <;> exact fun h => splitOn_ne_nil _ _ (List.map_eq_nil_iff.mp h)

/-! ## What the spelling is read as -/

/-- Every identifier is spelled as its item. -/
theorem wrap_eq_spelled (context : Option Context) (identifier : String) :
    Naming.folded.wrap context identifier = (Item.ofText identifier.toList).spelled := by
  unfold Item.ofText
  cases hsplit : splitAlias? identifier.toList with
  | none => exact (wrap_eq_spelledPath context hsplit).trans String.append_empty.symm
  | some cut =>
    obtain ⟨before, after⟩ := cut
    have hbefore : splitAlias? (String.ofList before).toList = none := by
      rw [String.toList_ofList]
      exact splitAlias?_before hsplit
    have hpath := wrap_eq_spelledPath context hbefore
    rw [String.toList_ofList] at hpath
    have hafter : Naming.folded context (String.ofList (trim after)) =
        (Segment.ofPart after).spelled := by
      show quoteIdentifier (String.ofList (Naming.fold (String.ofList (trim after)).toList)) = _
      rw [String.toList_ofList]
      exact (spelled_ofText _).symm
    unfold Naming.wrap at hpath ⊢
    rw [Naming.wrapWith_of_splitAlias? hsplit]
    rw [String.toList_ofList] at hpath
    rw [hpath, hafter]
    simp [Item.spelled, String.append_assoc]

/-- Whatever the identifier, its spelling is read to the last character, as what it means. -/
theorem readsBack_wrap (context : Option Context) (identifier : String) :
    ∃ item : Item, readItem? (Naming.folded.wrap context identifier).toList = some (item, []) ∧
      item.Denotes identifier.toList ∧ Naming.folded.wrap context identifier = item.spelled := by
  refine ⟨.ofText identifier.toList, ?_, denotes_iff.mpr rfl, wrap_eq_spelled context identifier⟩
  exact readItem?_eq_some_nil_iff.mpr
    ⟨path_ofText_ne_nil _, congrArg String.toList (wrap_eq_spelled context identifier)⟩

/-- A quote ends no name, and a second separator is part of the label. -/
example : Item.ofText "a\".* AS c as d".toList = ⟨[.name "A\"", .star], some (.name "C AS D")⟩ := by
  decide +kernel

end SnowflakeSql
