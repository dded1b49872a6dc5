import SnowflakeSql.Identifier.Alias
import SnowflakeSql.Proofs.Text.Runs

/-!
# The word that separates an alias

A `Separator` is "as" in either case between blanks.  `LeftmostSplit` says how a text is cut at
its leftmost separator, which takes all the blanks that follow it: `splitAlias?` finds that cut and
no other (`splitAlias?_eq_some_iff`), and finds none exactly where no separator is
(`splitAlias?_eq_none_iff`).  So nothing is left to cut in what stands before it
(`splitAlias?_before`).
-/

namespace SnowflakeSql.Identifier

open Text

/-- The word "as" in either case, with blanks before and after it. -/
structure Separator (word : List Char) : Prop where
  spelled : ∃ lead a s trail, word = lead ++ a :: s :: trail ∧ isLetterA a = true ∧
    isLetterS s = true ∧ (lead ≠ [] ∧ ∀ c ∈ lead, isBlank c = true) ∧
    (trail ≠ [] ∧ ∀ c ∈ trail, isBlank c = true)

/-- The text is cut at its leftmost separator, with all the blanks around that. -/
structure LeftmostSplit (cs before after : List Char) : Prop where
  cut : ∃ word, Separator word ∧ cs = before ++ word ++ after
  greedy : ∀ c ∈ after.head?, isBlank c = false
  leftmost : ∀ lead word rest, Separator word → cs = lead ++ word ++ rest →
    before.length ≤ lead.length

theorem Separator.ne_nil {word : List Char} (h : Separator word) : word ≠ [] := by
  obtain ⟨lead, a, s, trail, rfl, -⟩ := h.spelled
  exact List.append_ne_nil_of_right_ne_nil _ (List.cons_ne_nil _ _)

/-- More blanks at its end make no difference. -/
theorem Separator.append {word blanks : List Char} (h : Separator word)
    (hblanks : ∀ c ∈ blanks, isBlank c = true) : Separator (word ++ blanks) := by
  obtain ⟨lead, a, s, trail, rfl, ha, hs, hlead, hne, htrail⟩ := h.spelled
  refine ⟨lead, a, s, trail ++ blanks, by simp, ha, hs, hlead,
    List.append_ne_nil_of_left_ne_nil hne _, fun c hc => ?_⟩
  rcases List.mem_append.mp hc with hc | hc
  · exact htrail c hc
  · exact hblanks c hc

theorem isBlank_of_isLetterA {a : Char} (h : isLetterA a = true) : isBlank a = false := by
  unfold isLetterA at h
  rw [Bool.or_eq_true, decide_eq_true_eq, decide_eq_true_eq] at h
  rcases h with rfl | rfl <;> decide

theorem head?_dropWhile_isBlank (cs : List Char) :
    ∀ c ∈ (cs.dropWhile isBlank).head?, isBlank c = false := by
  intro c hc
  have hfirst := List.head?_dropWhile_not isBlank cs
  rw [Option.mem_def.mp hc] at hfirst
  simpa using hfirst

/-! ## At the beginning of a text -/

theorem afterAlias?_separator {word after : List Char} (h : Separator word)
    (hafter : ∀ c ∈ after.head?, isBlank c = false) : afterAlias? (word ++ after) = some after := by
  obtain ⟨lead, a, s, trail, rfl, ha, hs, ⟨hne, hlead⟩, hne', htrail⟩ := h.spelled
  obtain ⟨b, lead, rfl⟩ := List.exists_cons_of_ne_nil hne
  obtain ⟨t, trail, rfl⟩ := List.exists_cons_of_ne_nil hne'
  have hb : isBlank b = true := hlead b List.mem_cons_self
  have ht : isBlank t = true := htrail t List.mem_cons_self
  have hword : ((b :: lead) ++ a :: s :: t :: (trail ++ after)).dropWhile isBlank =
      a :: s :: t :: (trail ++ after) :=
    dropWhile_run hlead fun c hc => by
      cases hc
      exact isBlank_of_isLetterA ha
  have hrest : (trail ++ after).dropWhile isBlank = after :=
    dropWhile_run (fun c hc => htrail c (List.mem_cons_of_mem t hc)) hafter
  rw [List.cons_append] at hword
  simp only [List.append_assoc, List.cons_append]
  unfold afterAlias?
  simp only [hb, hword, ha, hs, ht, hrest, Bool.and_self, if_true]

theorem separator_of_afterAlias? {cs after : List Char} (h : afterAlias? cs = some after) :
    (∃ word, Separator word ∧ cs = word ++ after) ∧ ∀ c ∈ after.head?, isBlank c = false := by
  unfold afterAlias? at h
  split at h
  · cases h
  · next c cs =>
    split_ifs at h with hc
    split at h
    · next a s b rest hdrop =>
      split_ifs at h with hword
      rw [Bool.and_eq_true, Bool.and_eq_true] at hword
      obtain ⟨⟨ha, hs⟩, hb⟩ := hword
      cases h
      refine ⟨⟨(c :: cs).takeWhile isBlank ++ a :: s :: b :: rest.takeWhile isBlank,
        ⟨_, a, s, _, rfl, ha, hs, ⟨?_, ?_⟩, List.cons_ne_nil _ _, ?_⟩, ?_⟩,
        head?_dropWhile_isBlank rest⟩
      · rw [List.takeWhile_cons_of_pos hc]
        exact List.cons_ne_nil _ _
      · exact fun d hd => List.mem_takeWhile_imp hd
      · intro d hd
        rcases List.mem_cons.mp hd with rfl | hd
        · exact hb
        · exact List.mem_takeWhile_imp hd
      · have hrest := List.takeWhile_append_dropWhile (p := isBlank) (l := rest)
        have hcs := List.takeWhile_append_dropWhile (p := isBlank) (l := c :: cs)
        rw [List.append_assoc, List.cons_append, List.cons_append, List.cons_append, hrest,
          ← hdrop, hcs]
    · cases h

theorem afterAlias?_ne_none {word : List Char} (h : Separator word) (rest : List Char) :
    afterAlias? (word ++ rest) ≠ none := by
  have hblanks : Separator (word ++ rest.takeWhile isBlank) :=
    h.append fun _ hc => List.mem_takeWhile_imp hc
  have hafter := afterAlias?_separator hblanks (head?_dropWhile_isBlank rest)
  rw [List.append_assoc, List.takeWhile_append_dropWhile] at hafter
  rw [hafter]
  exact Option.some_ne_none _

/-! ## Anywhere in a text -/

theorem splitAlias?_cons_eq_none {c : Char} {cs : List Char} :
    splitAlias? (c :: cs) = none ↔ afterAlias? (c :: cs) = none ∧ splitAlias? cs = none := by
  rw [splitAlias?]
  constructor
  · intro h
    split at h
    · cases h
    · next hafter => exact ⟨hafter, Option.map_eq_none_iff.mp h⟩
  · rintro ⟨hafter, hsplit⟩
    rw [hafter, hsplit]
    rfl

/-- No cut is found exactly where no separator is. -/
theorem splitAlias?_eq_none_iff {cs : List Char} :
    splitAlias? cs = none ↔ ∀ lead word rest, Separator word → cs ≠ lead ++ word ++ rest := by
  induction cs with
  | nil =>
    refine ⟨fun _ lead word rest hword heq => hword.ne_nil ?_, fun _ => rfl⟩
    exact (List.append_eq_nil_iff.mp (List.append_eq_nil_iff.mp heq.symm).1).2
  | cons c cs ih =>
    rw [splitAlias?_cons_eq_none, ih]
    constructor
    · rintro ⟨hfirst, hrest⟩ lead word rest hword heq
      cases lead with
      | nil => exact afterAlias?_ne_none hword rest (heq ▸ hfirst)
      | cons d lead => exact hrest lead word rest hword (List.cons.inj heq).2
    · intro h
      refine ⟨?_, fun lead word rest hword heq => h (c :: lead) word rest hword (heq ▸ rfl)⟩
      cases hafter : afterAlias? (c :: cs) with
      | none => rfl
      | some after =>
        obtain ⟨⟨word, hword, heq⟩, -⟩ := separator_of_afterAlias? hafter
        exact absurd heq (h [] word after hword)

/-- The cut that is found is the leftmost one. -/
theorem leftmostSplit_of_splitAlias? {cs before after : List Char}
    (h : splitAlias? cs = some (before, after)) : LeftmostSplit cs before after := by
  induction cs generalizing before with
  | nil => cases h
  | cons c cs ih =>
    unfold splitAlias? at h
    split at h
    · next hafter =>
      cases h
      obtain ⟨hcut, hgreedy⟩ := separator_of_afterAlias? hafter
      exact ⟨hcut, hgreedy, fun _ _ _ _ _ => Nat.zero_le _⟩
    · next hfirst =>
      obtain ⟨⟨before', after'⟩, hsplit, hpair⟩ := Option.map_eq_some_iff.mp h
      cases hpair
      obtain ⟨⟨word, hword, hcut⟩, hgreedy, hleftmost⟩ := ih hsplit
      refine ⟨⟨word, hword, congrArg (c :: ·) hcut⟩, hgreedy, fun lead word' rest hword' heq => ?_⟩
      cases lead with
      | nil => exact absurd (heq ▸ hfirst) (afterAlias?_ne_none hword' rest)
      | cons d lead =>
        exact Nat.succ_le_succ (hleftmost lead word' rest hword' (List.cons.inj heq).2)

/-- There is one leftmost cut. -/
theorem LeftmostSplit.unique {cs before after before' after' : List Char}
    (h : LeftmostSplit cs before after) (h' : LeftmostSplit cs before' after') :
    before = before' ∧ after = after' := by
  obtain ⟨word, hword, hcut⟩ := h.cut
  obtain ⟨word', hword', hcut'⟩ := h'.cut
  have hlength : before.length = before'.length :=
    Nat.le_antisymm (h.leftmost _ _ _ hword' hcut') (h'.leftmost _ _ _ hword hcut)
  have htexts : before ++ (word ++ after) = before' ++ (word' ++ after') := by
    rw [← List.append_assoc, ← List.append_assoc, ← hcut, ← hcut']
  obtain ⟨hbefore, hrest⟩ := List.append_inj htexts hlength
  have hafter := afterAlias?_separator hword h.greedy
  rw [hrest, afterAlias?_separator hword' h'.greedy] at hafter
  exact ⟨hbefore, (Option.some.inj hafter).symm⟩

theorem splitAlias?_eq_some_iff {cs before after : List Char} :
    splitAlias? cs = some (before, after) ↔ LeftmostSplit cs before after := by
  refine ⟨leftmostSplit_of_splitAlias?, fun h => ?_⟩
  cases hsplit : splitAlias? cs with
  | none =>
    obtain ⟨word, hword, hcut⟩ := h.cut
    exact absurd hcut (splitAlias?_eq_none_iff.mp hsplit before word after hword)
  | some cut =>
    obtain ⟨hbefore, hafter⟩ := (leftmostSplit_of_splitAlias? hsplit).unique h
    rw [← hbefore, ← hafter]

/-- What stands before the leftmost separator has none. -/
theorem splitAlias?_before {cs before after : List Char}
    (h : splitAlias? cs = some (before, after)) : splitAlias? before = none := by
  obtain ⟨⟨word, -, hcut⟩, -, hleftmost⟩ := leftmostSplit_of_splitAlias? h
  refine splitAlias?_eq_none_iff.mpr fun lead word' rest hword' heq => ?_
  have hle := hleftmost lead word' (rest ++ word ++ after) hword' (by rw [hcut, heq]; simp)
  have hpos := List.length_pos_iff.mpr hword'.ne_nil
  have hlength := congrArg List.length heq
  simp only [List.length_append] at hlength
  omega

end SnowflakeSql.Identifier
