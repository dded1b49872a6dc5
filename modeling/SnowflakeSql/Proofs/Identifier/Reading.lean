import SnowflakeSql.Identifier.Naming
import SnowflakeSql.Proofs.Text.Pieces

/-!
# Reading identifiers back

In SQL an identifier is one or more segments with dots between them, each a bare star or a name
between double quotes where every quote of the name is doubled.  `readPath?` reads one off the
front of a text and gives its segments with their names undoubled, and `firstPath?` reads the
first quoted one in a statement.  `readPath?_wrap` says what a spelled identifier without an
alias is read as: one segment for each part of it between dots.
-/

namespace SnowflakeSql

open Text

namespace Text

theorem readBody?_double (mark : Char) (cs : List Char) {rest : List Char}
    (h : rest.head? ≠ some mark) :
    readBody? mark (double mark cs ++ mark :: rest) = some (cs, rest) := by
  induction cs with
  | nil =>
    cases rest with
    | nil => exact if_pos rfl
    | cons d rest =>
      have hd : d ≠ mark := fun hd => h (congrArg some hd)
      show (if mark = mark then _ else _) = _
      rw [if_pos rfl, if_neg hd]
  | cons c cs ih =>
    by_cases hc : c = mark
    · subst hc
      rw [double_cons_mark, List.cons_append, List.cons_append]
      unfold readBody?
      rw [if_pos rfl, if_pos rfl, ih]
      rfl
    · rw [double_cons_of_ne hc, List.cons_append]
      -- What follows is never empty: the closing mark is still to come.
      cases htail : double mark cs ++ mark :: rest with
      | nil => exact absurd htail (List.append_ne_nil_of_right_ne_nil _ (List.cons_ne_nil _ _))
      | cons d ds =>
        rw [htail] at ih
        unfold readBody?
        rw [if_neg hc, ih]
        rfl

theorem readEnclosed?_enclose (mark : Char) (cs : List Char) {rest : List Char}
    (h : rest.head? ≠ some mark) :
    readEnclosed? mark (enclose mark cs ++ rest) = some (cs, rest) := by
  have hread : readEnclosed? mark (enclose mark cs ++ rest) =
      readBody? mark (double mark cs ++ [mark] ++ rest) := if_pos rfl
  rw [hread, List.append_assoc]
  exact readBody?_double mark cs h

theorem length_of_readBody? {mark : Char} {cs body rest : List Char}
    (h : readBody? mark cs = some (body, rest)) : rest.length < cs.length := by
  fun_induction readBody? mark cs generalizing body rest with
  | case1 => cases h
  | case2 =>
    cases h
    exact Nat.zero_lt_one
  | case3 => cases h
  | case4 cs ih =>
    obtain ⟨⟨body', rest'⟩, hread, hpair⟩ := Option.map_eq_some_iff.mp h
    cases hpair
    have hlt := ih hread
    simp only [List.length_cons]
    omega
  | case5 d cs hd =>
    cases h
    exact Nat.lt_succ_self _
  | case6 c d cs hc ih =>
    obtain ⟨⟨body', rest'⟩, hread, hpair⟩ := Option.map_eq_some_iff.mp h
    cases hpair
    exact Nat.lt_succ_of_lt (ih hread)

theorem length_of_readEnclosed? {mark : Char} {cs body rest : List Char}
    (h : readEnclosed? mark cs = some (body, rest)) : rest.length < cs.length := by
  cases cs with
  | nil => cases h
  | cons c cs =>
    have hread : (if c = mark then readBody? mark cs else none) = some (body, rest) := h
    split_ifs at hread
    exact Nat.lt_succ_of_lt (length_of_readBody? hread)

end Text

/-! ## Segments -/

/-- A segment of an identifier, as SQL reads it. -/
inductive Segment where
  | star
  | name (name : String)
  deriving DecidableEq, Repr

namespace Segment

/-- The segment for a text; a star alone is no name. -/
def ofText (text : String) : Segment := if text = "*" then star else name text

/-- The text of a segment in SQL. -/
def spelled : Segment → String
  | star => "*"
  | name text => encloseString '"' text

end Segment

theorem spelled_ofText (text : String) : (Segment.ofText text).spelled = quoteIdentifier text := by
  unfold Segment.ofText quoteIdentifier
  split_ifs <;> rfl

/-- Reads one segment, and gives what follows it. -/
def readSegment? : List Char → Option (Segment × List Char)
  | '*' :: rest => some (.star, rest)
  | cs => (readEnclosed? '"' cs).map fun (body, rest) => (.name (String.ofList body), rest)

theorem length_of_readSegment? {cs rest : List Char} {segment : Segment}
    (h : readSegment? cs = some (segment, rest)) : rest.length < cs.length := by
  unfold readSegment? at h
  split at h
  · cases h
    exact Nat.lt_succ_self _
  · obtain ⟨⟨body, rest'⟩, hread, hpair⟩ := Option.map_eq_some_iff.mp h
    cases hpair
    exact length_of_readEnclosed? hread

theorem readSegment?_spelled (segment : Segment) {rest : List Char}
    (h : rest.head? ≠ some '"') :
    readSegment? (segment.spelled.toList ++ rest) = some (segment, rest) := by
  cases segment with
  | star => rfl
  | name text =>
    have htext : (Segment.name text).spelled.toList = enclose '"' text.toList :=
      String.toList_ofList
    have hread := readEnclosed?_enclose '"' text.toList h
    have hsegment : readSegment? (enclose '"' text.toList ++ rest) =
        (readEnclosed? '"' (enclose '"' text.toList ++ rest)).map
          fun (body, rest) => (.name (String.ofList body), rest) := rfl
    rw [htext, hsegment, hread]
    exact congrArg (fun name => some (Segment.name name, rest)) String.ofList_toList

/-! ## Paths -/

/-- Reads segments with dots between them, and gives what follows them. -/
def readPath? (cs : List Char) : Option (List Segment × List Char) :=
  match _h : readSegment? cs with
  | none => none
  | some (segment, '.' :: rest) =>
    (readPath? rest).map fun (segments, rest) => (segment :: segments, rest)
  | some (segment, rest) => some ([segment], rest)
termination_by cs.length
decreasing_by exact Nat.lt_of_succ_lt (length_of_readSegment? _h)

theorem readPath?_of_dot {cs rest : List Char} {segment : Segment}
    (h : readSegment? cs = some (segment, '.' :: rest)) :
    readPath? cs = (readPath? rest).map fun (segments, rest) => (segment :: segments, rest) := by
  rw [readPath?]
  split
  · next hnone => cases h.symm.trans hnone
  · next hdot => cases h.symm.trans hdot; rfl
  · next hnot hsome =>
    cases h.symm.trans hsome
    exact absurd rfl (hnot _)

theorem readPath?_of_end {cs rest : List Char} {segment : Segment}
    (h : readSegment? cs = some (segment, rest)) (hdot : rest.head? ≠ some '.') :
    readPath? cs = some ([segment], rest) := by
  rw [readPath?]
  split
  · next hnone => cases h.symm.trans hnone
  · next hsome => cases h.symm.trans hsome; exact absurd rfl hdot
  · next hsome => cases h.symm.trans hsome; rfl

/-- The text of an identifier in SQL. -/
def spelledPath (segments : List Segment) : String :=
  ".".intercalate (segments.map Segment.spelled)

/-- Segments that are spelled with dots between are read back, up to what ends them. -/
theorem readPath?_spelledPath {segments : List Segment} (hne : segments ≠ []) {rest : List Char}
    (hquote : rest.head? ≠ some '"') (hdot : rest.head? ≠ some '.') :
    readPath? ((spelledPath segments).toList ++ rest) = some (segments, rest) := by
  induction segments with
  | nil => exact absurd rfl hne
  | cons segment segments ih =>
    cases segments with
    | nil =>
      exact readPath?_of_end (readSegment?_spelled segment hquote) hdot
    | cons next segments =>
      have htext : (spelledPath (segment :: next :: segments)).toList ++ rest =
          segment.spelled.toList ++ '.' :: ((spelledPath (next :: segments)).toList ++ rest) := by
        unfold spelledPath
        simp [String.intercalate_cons_cons]
      rw [htext, readPath?_of_dot (readSegment?_spelled segment (by simp)),
        ih (List.cons_ne_nil _ _)]
      rfl

/-- The first quoted identifier in a statement. -/
def firstPath? (sql : String) : Option (List Segment) :=
  (readPath? (sql.toList.dropWhile (· ≠ '"'))).map Prod.fst

/-- The first quoted identifier is the one after words without quotes. -/
theorem firstPath?_spelledPath {lead : String} (name : String) (segments : List Segment)
    {tail : String} (hlead : '"' ∉ lead.toList) (hquote : tail.toList.head? ≠ some '"')
    (hdot : tail.toList.head? ≠ some '.') :
    firstPath? (lead ++ spelledPath (.name name :: segments) ++ tail) =
      some (.name name :: segments) := by
  obtain ⟨cs, hcs⟩ : ∃ cs, (spelledPath (.name name :: segments)).toList = '"' :: cs := by
    cases segments with
    | nil => exact ⟨_, by simp [spelledPath, Segment.spelled, encloseString, enclose]; rfl⟩
    | cons next segments =>
      exact ⟨_, by simp [spelledPath, String.intercalate_cons_cons, Segment.spelled,
        encloseString, enclose]; rfl⟩
  have hskip : (lead ++ spelledPath (.name name :: segments) ++ tail).toList.dropWhile (· ≠ '"') =
      (spelledPath (.name name :: segments)).toList ++ tail.toList := by
    rw [String.toList_append, String.toList_append, List.append_assoc,
      List.dropWhile_append_of_pos, hcs, List.cons_append, List.dropWhile_cons_of_neg]
    · simp
    · intro c hc
      have hne : c ≠ '"' := fun h => hlead (h ▸ hc)
      simpa using hne
  unfold firstPath?
  rw [hskip, readPath?_spelledPath (List.cons_ne_nil _ _) hquote hdot]
  rfl

/-! ## Spelled identifiers -/

/-- The segment that a part of an identifier is spelled as. -/
def Segment.ofPart (part : List Char) : Segment :=
  .ofText (String.ofList (Naming.fold (trim part)))

theorem wrap_eq_spelledPath (context : Option Context) {identifier : String}
    (h : Identifier.splitAlias? identifier.toList = none) :
    Naming.folded.wrap context identifier =
      spelledPath ((splitOn '.' identifier.toList).map .ofPart) := by
  unfold Naming.wrap spelledPath
  rw [Naming.wrapWith_of_splitAlias?_none h, List.map_map]
  refine congrArg _ (List.map_congr_left fun part _ => ?_)
  show quoteIdentifier (String.ofList (Naming.fold (String.ofList (trim part)).toList)) = _
  rw [String.toList_ofList]
  exact (spelled_ofText _).symm

/-! ## Capitals and the star -/

theorem ofNat_eq_star {n : Nat} (h : Char.ofNat n = '*') : n = 42 := by
  by_cases hvalid : n.isValidChar
  · have htoNat : (Char.ofNat n).toNat = n := by
      unfold Char.ofNat
      rw [dif_pos hvalid]
      rfl
    rw [← htoNat, h]
    rfl
  · unfold Char.ofNat at h
    rw [dif_neg hvalid] at h
    cases h

theorem length_of_mem_upperExpansions {n : Nat} {codes : List Nat}
    (h : (n, codes) ∈ upperExpansions) : 2 ≤ codes.length := by
  have htable : ∀ entry ∈ upperExpansions, 2 ≤ entry.2.length := by decide +kernel
  exact htable _ h

theorem mem_upperExpansions_of_lookup {n : Nat} {codes : List Nat}
    (h : upperExpansions.lookup n = some codes) : (n, codes) ∈ upperExpansions := by
  obtain ⟨before, after, htable, -⟩ := List.lookup_eq_some_iff.mp h
  rw [htable]
  exact List.mem_append_right before (.head after)

/-- No run reaches down to the star. -/
theorem image?_ne_star {run : CaseRun} (h : run ∈ upperRuns) (n : Nat) :
    run.image? n ≠ some 42 := by
  have htable : ∀ run ∈ upperRuns, 42 < (run.first : Int) + run.shift := by decide +kernel
  have hrun := htable run h
  intro himage
  unfold CaseRun.image? at himage
  split_ifs at himage with hin
  have hcode : ((n : Int) + run.shift).toNat = 42 := Option.some.inj himage
  omega

theorem upperChar_ne_nil (c : Char) : upperChar c ≠ [] := by
  unfold upperChar mapByRuns
  split
  · next codes hlookup =>
    have hlength := length_of_mem_upperExpansions (mem_upperExpansions_of_lookup hlookup)
    intro hnil
    rw [List.map_eq_nil_iff] at hnil
    rw [hnil] at hlength
    exact absurd hlength (by decide)
  · split <;> exact List.cons_ne_nil _ _

/-- The star is the capital of no other character. -/
theorem upperChar_eq_star {c : Char} (h : upperChar c = ['*']) : c = '*' := by
  unfold upperChar mapByRuns at h
  split at h
  · next codes hlookup =>
    have hlength := length_of_mem_upperExpansions (mem_upperExpansions_of_lookup hlookup)
    have hone := congrArg List.length h
    rw [List.length_map, List.length_singleton] at hone
    omega
  · split at h
    · next code hfind =>
      obtain ⟨run, hrun, himage⟩ := List.exists_of_findSome?_eq_some hfind
      rw [ofNat_eq_star (List.cons.inj h).1] at himage
      exact absurd himage (image?_ne_star hrun _)
    · exact (List.cons.inj h).1

theorem upper_eq_star {cs : List Char} (h : upper cs = ['*']) : cs = ['*'] := by
  cases cs with
  | nil => cases h
  | cons c cs =>
    have happend : upperChar c ++ upper cs = ['*'] := h
    rcases List.append_eq_singleton_iff.mp happend with ⟨hnil, -⟩ | ⟨hstar, hrest⟩
    · exact absurd hnil (upperChar_ne_nil c)
    · rw [upperChar_eq_star hstar]
      cases cs with
      | nil => rfl
      | cons d ds =>
        have hcons : upperChar d ++ upper ds = [] := hrest
        exact absurd (List.append_eq_nil_iff.mp hcons).1 (upperChar_ne_nil d)

end SnowflakeSql
