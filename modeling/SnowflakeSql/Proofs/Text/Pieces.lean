import Mathlib.Data.List.Basic
import SnowflakeSql.Text.Split

/-!
# Pieces of texts

`splitOn` cuts as the library's function of that name does (`splitOn_eq`), so joining the pieces
gives the text back, and texts with the same pieces are the same (`splitOn_inj`).  A text that is
joined of parts has the pieces of its parts (`splitOn_intercalate`).  `PieceAt` says which piece
stands at a position, without cutting the text (`getElem?_splitOn_eq_some_iff`).  `splitLast?` cuts
at the last mark alone.
-/

namespace SnowflakeSql.Text

/-! ## At every mark -/

theorem splitOn_cons (mark c : Char) (cs : List Char) : splitOn mark (c :: cs) =
    if c = mark then [] :: splitOn mark cs else (splitOn mark cs).modifyHead (List.cons c) := by
  rw [splitOn]
  split_ifs
  · rfl
  · cases h : splitOn mark cs with
    | nil => exact absurd h (splitOn_ne_nil mark cs)
    | cons part parts => rfl

theorem splitOn_eq (mark : Char) (cs : List Char) : splitOn mark cs = cs.splitOn mark := by
  induction cs with
  | nil => rfl
  | cons c cs ih =>
    rw [List.splitOn_eq_splitOnP] at ih ⊢
    rw [splitOn_cons, List.splitOnP_cons_eq_if_modifyHead, ih]
    simp only [beq_iff_eq]

/-- The parts are taken out of the text, and leave the marks there. -/
theorem sublist_of_mem_splitOn {mark : Char} {cs part : List Char}
    (h : part ∈ splitOn mark cs) : part.Sublist cs ∧ mark ∉ part := by
  induction cs generalizing part with
  | nil =>
    rw [List.mem_singleton.mp h]
    exact ⟨List.nil_sublist _, List.not_mem_nil⟩
  | cons c cs ih =>
    rw [splitOn_cons] at h
    split_ifs at h with hc
    · rcases List.mem_cons.mp h with rfl | h
      · exact ⟨List.nil_sublist _, List.not_mem_nil⟩
      · exact ⟨(ih h).1.cons c, (ih h).2⟩
    · cases hparts : splitOn mark cs with
      | nil => exact absurd hparts (splitOn_ne_nil mark cs)
      | cons first parts =>
        rw [hparts] at h ih
        rcases List.mem_cons.mp h with rfl | h
        · obtain ⟨hsub, hmark⟩ := ih List.mem_cons_self
          exact ⟨hsub.cons_cons c, List.not_mem_cons_of_ne_of_not_mem (Ne.symm hc) hmark⟩
        · obtain ⟨hsub, hmark⟩ := ih (List.mem_cons_of_mem first h)
          exact ⟨hsub.cons c, hmark⟩

theorem splitOn_of_not_mem {mark : Char} {cs : List Char} (h : mark ∉ cs) :
    splitOn mark cs = [cs] := by
  rw [splitOn_eq, List.splitOn_eq_splitOnP]
  refine List.splitOnP_eq_singleton fun c hc => ?_
  rw [beq_eq_false_iff_ne]
  rintro rfl
  exact h hc

theorem splitOn_append_cons (mark : Char) (cs ds : List Char) :
    splitOn mark (cs ++ mark :: ds) = splitOn mark cs ++ splitOn mark ds := by
  simp only [splitOn_eq, List.splitOn_eq_splitOnP]
  exact List.splitOnP_append_cons cs ds (beq_self_eq_true mark)

theorem splitOn_append_mark {mark : Char} {cs : List Char} (h : mark ∉ cs) (ds : List Char) :
    splitOn mark (cs ++ mark :: ds) = cs :: splitOn mark ds := by
  rw [splitOn_append_cons, splitOn_of_not_mem h, List.singleton_append]

theorem intercalate_splitOn (mark : Char) (cs : List Char) :
    List.intercalate [mark] (splitOn mark cs) = cs := by
  rw [splitOn_eq, List.intercalate_splitOn]

theorem splitOn_inj {mark : Char} {cs ds : List Char} :
    splitOn mark cs = splitOn mark ds ↔ cs = ds := by
  refine ⟨fun h => ?_, congrArg (splitOn mark)⟩
  rw [← intercalate_splitOn mark cs, h, intercalate_splitOn]

/-- A text that is joined of parts has the pieces of its parts. -/
theorem splitOn_intercalate {mark : Char} {parts : List (List Char)} (h : parts ≠ []) :
    splitOn mark (List.intercalate [mark] parts) = parts.flatMap (splitOn mark) := by
  induction parts with
  | nil => exact absurd rfl h
  | cons part parts ih =>
    cases parts with
    | nil => simp
    | cons next parts =>
      rw [List.intercalate_cons_cons, List.append_assoc, List.singleton_append,
        splitOn_append_cons, ih (List.cons_ne_nil _ _), ← List.flatMap_cons]

/-! ## The piece at a position -/

/-- The part is the piece of the text at the position: no mark is in it, a mark or an end of the
text is on each side of it, and as many marks stand before it as the position says. -/
structure PieceAt (mark : Char) (cs : List Char) (position : Nat) (part : List Char) : Prop where
  placed : ∃ lead trail, cs = lead ++ part ++ trail ∧ lead.count mark = position ∧
    (∀ c ∈ lead.getLast?, c = mark) ∧ ∀ c ∈ trail.head?, c = mark
  unmarked : mark ∉ part

theorem length_splitOn (mark : Char) (cs : List Char) :
    (splitOn mark cs).length = cs.count mark + 1 := by
  induction cs with
  | nil => rfl
  | cons c cs ih =>
    rw [splitOn_cons]
    split_ifs with hc
    · rw [List.length_cons, ih, hc, List.count_cons_self]
    · rw [List.length_modifyHead, ih, List.count_cons_of_ne hc]

/-- The first piece goes up to the first mark. -/
theorem head?_splitOn_append {mark : Char} {part trail : List Char} (hpart : mark ∉ part)
    (htrail : ∀ c ∈ trail.head?, c = mark) : (splitOn mark (part ++ trail)).head? = some part := by
  cases trail with
  | nil => rw [List.append_nil, splitOn_of_not_mem hpart, List.head?_cons]
  | cons c trail => rw [htrail c rfl, splitOn_append_mark hpart, List.head?_cons]

theorem PieceAt.getElem?_splitOn {mark : Char} {cs part : List Char} {position : Nat}
    (h : PieceAt mark cs position part) : (splitOn mark cs)[position]? = some part := by
  obtain ⟨lead, trail, rfl, rfl, hlead, htrail⟩ := h.placed
  have hfirst := head?_splitOn_append h.unmarked htrail
  rcases List.eq_nil_or_concat lead with rfl | ⟨before, c, rfl⟩
  · rw [List.nil_append, List.count_nil, ← List.head?_eq_getElem?]
    exact hfirst
  · obtain rfl : c = mark := hlead c (by simp)
    have hcount : (before.concat c).count c = (splitOn c before).length := by
      rw [length_splitOn, List.concat_eq_append, List.count_append, List.count_singleton_self]
    rw [hcount, List.concat_eq_append, List.append_assoc, List.append_assoc, List.singleton_append,
      splitOn_append_cons, List.getElem?_append_right (Nat.le_refl _), Nat.sub_self,
      ← List.head?_eq_getElem?]
    exact hfirst

theorem pieceAt_of_getElem?_splitOn {mark : Char} {cs part : List Char} {position : Nat}
    (h : (splitOn mark cs)[position]? = some part) : PieceAt mark cs position part := by
  refine ⟨?_, (sublist_of_mem_splitOn (List.mem_of_getElem? h)).2⟩
  induction cs generalizing part position with
  | nil =>
    obtain ⟨rfl, rfl⟩ : position = 0 ∧ part = [] := by
      cases position with
      | zero => exact ⟨rfl, (Option.some.inj h).symm⟩
      | succ position => cases h
    exact ⟨[], [], rfl, rfl, nofun, nofun⟩
  | cons c cs ih =>
    rw [splitOn_cons] at h
    split_ifs at h with hc
    · cases position with
      | zero =>
        obtain rfl : [] = part := Option.some.inj h
        exact ⟨[], c :: cs, rfl, rfl, nofun, fun d hd => Option.some.inj hd ▸ hc⟩
      | succ position =>
        obtain ⟨lead, trail, hcs, hcount, hlead, htrail⟩ := ih h
        refine ⟨c :: lead, trail, congrArg (c :: ·) hcs, ?_, ?_, htrail⟩
        · rw [hc, List.count_cons_self, hcount]
        · intro d hd
          cases lead with
          | nil => exact Option.some.inj hd ▸ hc
          | cons e lead => exact hlead d hd
    · cases hparts : splitOn mark cs with
      | nil => exact absurd hparts (splitOn_ne_nil mark cs)
      | cons first parts =>
        rw [hparts] at h ih
        cases position with
        | zero =>
          have hfirst : (first :: parts)[0]? = some first := rfl
          obtain ⟨lead, trail, hcs, hcount, hlead, htrail⟩ := ih hfirst
          obtain rfl : c :: first = part := Option.some.inj h
          have hnil : lead = [] := by
            rcases List.eq_nil_or_concat lead with hnil | ⟨before, d, rfl⟩
            · exact hnil
            · obtain rfl : d = mark := hlead d (by simp)
              simp at hcount
          refine ⟨[], trail, ?_, rfl, nofun, htrail⟩
          rw [hcs, hnil]
          rfl
        | succ position =>
          have hlater : (first :: parts)[position + 1]? = some part := h
          obtain ⟨lead, trail, hcs, hcount, hlead, htrail⟩ := ih hlater
          refine ⟨c :: lead, trail, congrArg (c :: ·) hcs, ?_, ?_, htrail⟩
          · rw [List.count_cons_of_ne hc, hcount]
          · intro d hd
            cases lead with
            | nil => cases hcount
            | cons e lead => exact hlead d hd

theorem getElem?_splitOn_eq_some_iff {mark : Char} {cs part : List Char} {position : Nat} :
    (splitOn mark cs)[position]? = some part ↔ PieceAt mark cs position part :=
  ⟨pieceAt_of_getElem?_splitOn, PieceAt.getElem?_splitOn⟩

/-! ## At the last mark -/

theorem splitLast?_of_not_mem {mark : Char} {cs : List Char} (h : mark ∉ cs) :
    splitLast? mark cs = none := by
  induction cs with
  | nil => rfl
  | cons c cs ih =>
    rw [List.mem_cons, not_or] at h
    unfold splitLast?
    rw [ih h.2]
    exact if_neg (Ne.symm h.1)

theorem splitLast?_append_mark {mark : Char} (cs : List Char) {ds : List Char} (h : mark ∉ ds) :
    splitLast? mark (cs ++ mark :: ds) = some (cs, ds) := by
  induction cs with
  | nil =>
    rw [List.nil_append]
    unfold splitLast?
    rw [splitLast?_of_not_mem h]
    exact if_pos rfl
  | cons c cs ih =>
    rw [List.cons_append]
    unfold splitLast?
    rw [ih]

end SnowflakeSql.Text
