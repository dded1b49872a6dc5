import SnowflakeSql.Identifier.Naming
import SnowflakeSql.Proofs.Identifier.Separator
import SnowflakeSql.Proofs.Text.Phrases
import SnowflakeSql.Proofs.Text.Runs

/-!
# One cut at most

An identifier is cut once: what stands before its leftmost separator is shorter and has no separator
any more, and all that follows goes into one segment, with any separator that is in it
(`LeftmostSplit.separator_cases`).  So whatever the naming, the spelling is put together of the same
fragments (`wrap_eq_join`), and one of them is the word "as".  Where the naming closes its quotes
and writes no space outside them, that is the only time the word is in the spelling outside quotes
(`occurrences_unquoted`).  `cutOnce_wrap` puts this together.
-/

namespace SnowflakeSql

open Text Identifier

/-! ## The separators of a text -/

namespace Identifier

theorem Separator.cut_blanks {blanks : List Char} {a : Char} (h : ∀ c ∈ blanks, isBlank c = true)
    (ha : isLetterA a = true) (rest : List Char) :
    (blanks ++ a :: rest).takeWhile isBlank = blanks ∧
      (blanks ++ a :: rest).dropWhile isBlank = a :: rest := by
  have hrest : ∀ c ∈ (a :: rest).head?, isBlank c = false := fun c hc =>
    Option.some.inj hc ▸ isBlank_of_isLetterA ha
  exact ⟨takeWhile_run h hrest, dropWhile_run h hrest⟩

theorem not_isLetterS_of_isLetterA {c : Char} (h : isLetterA c = true) : isLetterS c = false := by
  unfold isLetterA at h
  rw [Bool.or_eq_true, decide_eq_true_eq, decide_eq_true_eq] at h
  rcases h with rfl | rfl <;> decide

/-- A separator is the one that is cut out, or its letters stand behind the cut with all that
follows them. -/
theorem LeftmostSplit.separator_cases {cs before word after lead other rest : List Char}
    (h : LeftmostSplit cs before after) (hword : Separator word)
    (hcut : cs = before ++ word ++ after) (hother : Separator other)
    (hcs : cs = lead ++ other ++ rest) :
    lead ++ other.takeWhile isBlank = before ++ word.takeWhile isBlank ∨
      other.dropWhile isBlank ++ rest <:+ after := by
  have hle := h.leftmost lead other rest hother hcs
  obtain ⟨blanks, a, s, trail, rfl, ha, hs, ⟨-, hblanks⟩, -, htrail⟩ := hword.spelled
  obtain ⟨blanks', a', s', trail', rfl, ha', -, ⟨-, hblanks'⟩, -⟩ := hother.spelled
  rw [(Separator.cut_blanks hblanks ha _).1, (Separator.cut_blanks hblanks' ha' _).1,
    (Separator.cut_blanks hblanks' ha' _).2]
  have hfirst : ∀ c ∈ (a' :: s' :: trail' ++ rest).head?, isBlank c = false := fun c hc =>
    Option.some.inj hc ▸ isBlank_of_isLetterA ha'
  rw [List.append_assoc] at hcut hcs
  -- No separator begins before the one that is cut out, so its letters do not come before either.
  have hbehind : blanks' ++ a' :: s' :: trail' ++ rest <:+ blanks ++ a :: s :: trail ++ after := by
    refine List.suffix_of_suffix_length_le ⟨lead, hcs.symm⟩ ⟨before, hcut.symm⟩ ?_
    have hlength := congrArg List.length (hcut.symm.trans hcs)
    simp only [List.length_append] at hlength ⊢
    omega
  rw [List.append_assoc, List.append_assoc] at hbehind
  have hletters : a' :: s' :: trail' ++ rest <:+ a :: s :: (trail ++ after) :=
    suffix_of_suffix_run hblanks hfirst ((List.suffix_append blanks' _).trans hbehind)
  rcases List.suffix_cons_iff.mp hletters with hsame | hlater
  · have hfronts : lead ++ blanks' ++ (a' :: s' :: trail' ++ rest) =
        before ++ blanks ++ (a' :: s' :: trail' ++ rest) := by
      rw [List.append_assoc, ← List.append_assoc blanks', ← hcs, hsame, hcut]
      simp
    exact .inl (List.append_cancel_right hfronts)
  rcases List.suffix_cons_iff.mp hlater with hshift | hlater
  · -- The s that is cut out is no a.
    obtain ⟨rfl, -⟩ := List.cons.inj hshift
    rw [not_isLetterS_of_isLetterA ha'] at hs
    cases hs
  · exact .inr (suffix_of_suffix_run htrail hfirst hlater)

/-- The identifier is cut at its leftmost separator, and there is no second cut. -/
structure CutOnce (cs before after : List Char) : Prop where
  leftmost : LeftmostSplit cs before after
  shorter : before.length < cs.length
  /-- What stands before it is not cut again: it has no separator. -/
  uncut : splitAlias? before = none
  bare : ∀ lead word rest, Separator word → before ≠ lead ++ word ++ rest
  /-- Every separator is the one that is cut out, or its letters are in the alias. -/
  later : ∃ word, Separator word ∧ cs = before ++ word ++ after ∧
    ∀ lead other rest, Separator other → cs = lead ++ other ++ rest →
      lead ++ other.takeWhile isBlank = before ++ word.takeWhile isBlank ∨
        other.dropWhile isBlank ++ rest <:+ after

theorem cutOnce_of_splitAlias? {cs before after : List Char}
    (h : splitAlias? cs = some (before, after)) : CutOnce cs before after := by
  have hsplit := leftmostSplit_of_splitAlias? h
  obtain ⟨word, hword, hcut⟩ := hsplit.cut
  exact {
    leftmost := hsplit
    shorter := length_of_splitAlias? h
    uncut := splitAlias?_before h
    bare := splitAlias?_eq_none_iff.mp (splitAlias?_before h)
    later := ⟨word, hword, hcut, fun _ _ _ hother hcs =>
      hsplit.separator_cases hword hcut hother hcs⟩ }

end Identifier

/-! ## What a spelling is put together of -/

/-- A fragment of the spelling of an identifier: a segment, which the naming spells, or what is
written between two segments. -/
inductive Fragment where
  | segment (text : String)
  | dot
  | separator
  deriving DecidableEq

/-- The text of a fragment, where `spell` spells the segments. -/
def Fragment.text (spell : String → String) : Fragment → String
  | segment text => spell text
  | dot => "."
  | separator => " as "

/-- The segment of a part of an identifier. -/
def Fragment.ofPart (part : List Char) : Fragment := .segment (String.ofList (trim part))

/-- The fragments of an identifier without an alias. -/
def pathFragments (cs : List Char) : List Fragment :=
  match splitOn '.' cs with
  | [] => []
  | part :: parts => .ofPart part :: parts.flatMap fun part => [.dot, .ofPart part]

/-- The fragments of an identifier with an alias. -/
def aliasFragments (before after : List Char) : List Fragment :=
  pathFragments before ++ [.separator, .ofPart after]

theorem separator_not_mem_pathFragments (cs : List Char) :
    Fragment.separator ∉ pathFragments cs := by
  unfold pathFragments
  split
  · exact List.not_mem_nil
  · simp [Fragment.ofPart]

theorem count_separator_aliasFragments (before after : List Char) :
    (aliasFragments before after).count .separator = 1 := by
  unfold aliasFragments
  rw [List.count_append,
    List.count_eq_zero_of_not_mem (separator_not_mem_pathFragments before)]
  rfl

section Spelled

variable (spell : String → String)

theorem join_dotted (parts : List (List Char)) :
    String.join (parts.map fun part => "." ++ spell (String.ofList (trim part))) =
      String.join ((parts.flatMap fun part => [.dot, .ofPart part]).map (Fragment.text spell)) := by
  induction parts with
  | nil => rfl
  | cons part parts ih =>
    rw [List.map_cons, String.join_cons, ih, List.flatMap_cons, List.map_append, String.join_append]
    rfl

theorem join_pathFragments (cs : List Char) :
    ".".intercalate ((splitOn '.' cs).map fun part => spell (String.ofList (trim part))) =
      String.join ((pathFragments cs).map (Fragment.text spell)) := by
  unfold pathFragments
  cases splitOn '.' cs with
  | nil => rfl
  | cons part parts =>
    rw [List.map_cons, intercalate_cons, List.map_map, List.map_cons, String.join_cons,
      ← join_dotted]
    rfl

theorem join_aliasFragments (before after : List Char) :
    String.join ((aliasFragments before after).map (Fragment.text spell)) =
      String.join ((pathFragments before).map (Fragment.text spell)) ++
        (" as " ++ spell (String.ofList (trim after))) := by
  unfold aliasFragments
  rw [List.map_append, String.join_append]
  rfl

end Spelled

theorem wrap_eq_join (naming : Naming) (context : Option Context) {identifier : String}
    {before after : List Char} (h : splitAlias? identifier.toList = some (before, after)) :
    naming.wrap context identifier =
      String.join ((aliasFragments before after).map (Fragment.text (naming context))) := by
  unfold Naming.wrap
  rw [Naming.wrapWith_of_splitAlias? h, Naming.wrapWith_of_splitAlias?_none (splitAlias?_before h),
    join_pathFragments (naming context), join_aliasFragments, String.append_assoc]

/-! ## Outside the quotes -/

namespace Text

/-- What stands outside double quotes, with the quotes; `quoted` tells whether one is open. -/
def outsideQuotes : (quoted : Bool) → List Char → List Char
  | _, [] => []
  | quoted, c :: cs =>
    if c = '"' then c :: outsideQuotes (!quoted) cs
    else if quoted then outsideQuotes quoted cs
    else c :: outsideQuotes quoted cs

/-- The text without what it has between double quotes. -/
def unquoted (text : String) : String := String.ofList (outsideQuotes false text.toList)

/-- The text closes its quotes, whatever follows it, and has no space outside them. -/
structure Closed (text : String) : Prop where
  closes : ∀ rest, outsideQuotes false (text.toList ++ rest) =
    outsideQuotes false text.toList ++ outsideQuotes false rest
  spaceless : ' ' ∉ outsideQuotes false text.toList

theorem outsideQuotes_append {cs : List Char} (h : '"' ∉ cs) (rest : List Char) :
    outsideQuotes false (cs ++ rest) = cs ++ outsideQuotes false rest := by
  induction cs with
  | nil => rfl
  | cons c cs ih =>
    rw [List.mem_cons, not_or] at h
    rw [List.cons_append, outsideQuotes, if_neg (Ne.symm h.1), ih h.2]
    rfl

/-- A doubled quote closes the quotes and opens them again, with nothing between. -/
theorem outsideQuotes_double (cs : List Char) :
    ∃ quotes : List Char, (∀ c ∈ quotes, c = '"') ∧
      ∀ rest, outsideQuotes true (double '"' cs ++ '"' :: rest) =
        quotes ++ '"' :: outsideQuotes false rest := by
  induction cs with
  | nil => exact ⟨[], by simp, fun _ => rfl⟩
  | cons c cs ih =>
    obtain ⟨quotes, hquotes, hrest⟩ := ih
    by_cases hc : c = '"'
    · subst hc
      refine ⟨'"' :: '"' :: quotes, by simpa using hquotes, fun rest => ?_⟩
      rw [double_cons_mark]
      exact congrArg (fun cs => '"' :: '"' :: cs) (hrest rest)
    · refine ⟨quotes, hquotes, fun rest => ?_⟩
      rw [double_cons_of_ne hc, List.cons_append, outsideQuotes, if_neg hc]
      exact hrest rest

theorem closed_encloseString (text : String) : Closed (encloseString '"' text) := by
  obtain ⟨quotes, hquotes, hread⟩ := outsideQuotes_double text.toList
  have hrest : ∀ rest, outsideQuotes false ((encloseString '"' text).toList ++ rest) =
      '"' :: (quotes ++ '"' :: outsideQuotes false rest) := fun rest => by
    rw [toList_encloseString]
    unfold enclose
    rw [List.cons_append, List.append_assoc]
    exact congrArg ('"' :: ·) (hread rest)
  have htext : outsideQuotes false (encloseString '"' text).toList = '"' :: (quotes ++ ['"']) := by
    have hnil := hrest []
    rw [List.append_nil] at hnil
    exact hnil
  constructor
  · intro rest
    rw [hrest, htext]
    simp
  · rw [htext]
    intro hspace
    rw [List.mem_cons, List.mem_append, List.mem_singleton] at hspace
    rcases hspace with hspace | hspace | hspace
    · cases hspace
    · cases hquotes _ hspace
    · cases hspace

theorem closed_of_not_mem {text : String} (hquote : '"' ∉ text.toList)
    (hspace : ' ' ∉ text.toList) : Closed text := by
  have htext := outsideQuotes_append hquote []
  rw [List.append_nil, outsideQuotes, List.append_nil] at htext
  constructor
  · intro rest
    rw [htext, outsideQuotes_append hquote]
  · rw [htext]
    exact hspace

theorem Closed.append {s t : String} (hs : Closed s) (ht : Closed t) : Closed (s ++ t) := by
  have htext : outsideQuotes false (s ++ t).toList =
      outsideQuotes false s.toList ++ outsideQuotes false t.toList := by
    rw [String.toList_append, hs.closes]
  constructor
  · intro rest
    rw [htext, String.toList_append, List.append_assoc, hs.closes, ht.closes, List.append_assoc]
  · rw [htext, List.mem_append]
    exact not_or_intro hs.spaceless ht.spaceless

theorem closed_join {parts : List String} (h : ∀ part ∈ parts, Closed part) :
    Closed (String.join parts) := by
  induction parts with
  | nil => exact closed_of_not_mem List.not_mem_nil List.not_mem_nil
  | cons part parts ih =>
    rw [String.join_cons]
    exact (h part List.mem_cons_self).append (ih fun p hp => h p (List.mem_cons_of_mem part hp))

end Text

theorem closed_quoteIdentifier (segment : String) : Closed (quoteIdentifier segment) := by
  unfold quoteIdentifier
  split_ifs
  · exact closed_of_not_mem (by decide) (by decide)
  · exact closed_encloseString segment

section Wrapped

variable {naming : Naming} {context : Option Context}

theorem closed_pathFragments (h : ∀ segment, Closed (naming context segment)) (cs : List Char) :
    Closed (String.join ((pathFragments cs).map (Fragment.text (naming context)))) := by
  refine closed_join fun part hpart => ?_
  obtain ⟨fragment, hfragment, rfl⟩ := List.mem_map.mp hpart
  cases fragment with
  | segment text => exact h text
  | dot =>
    have hdot : Closed "." := closed_of_not_mem (by decide) (by decide)
    exact hdot
  | separator => exact absurd hfragment (separator_not_mem_pathFragments cs)

theorem occurrences_unquoted (h : ∀ segment, Closed (naming context segment)) {identifier : String}
    {before after : List Char} (hsplit : splitAlias? identifier.toList = some (before, after)) :
    occurrences " as " (unquoted (naming.wrap context identifier)) = 1 := by
  have hpath := closed_pathFragments h before
  have halias := h (String.ofList (trim after))
  have hword : " as ".toList = ' ' :: (['a', 's'] ++ [' ']) := rfl
  refine occurrences_between hword ?_ (by decide) hpath.spaceless halias.spaceless
  unfold unquoted
  rw [String.toList_ofList, wrap_eq_join naming context hsplit, join_aliasFragments,
    String.toList_append, hpath.closes, String.toList_append]
  rfl

end Wrapped

theorem cutOnce_wrap (naming : Naming) (context : Option Context) {identifier : String}
    {before after : List Char} (h : splitAlias? identifier.toList = some (before, after)) :
    CutOnce identifier.toList before after ∧
      naming.wrap context identifier =
        String.join ((aliasFragments before after).map (Fragment.text (naming context))) ∧
      (aliasFragments before after).count .separator = 1 ∧
      ((∀ segment, Closed (naming context segment)) →
        occurrences " as " (unquoted (naming.wrap context identifier)) = 1) := by
  exact ⟨cutOnce_of_splitAlias? h, wrap_eq_join naming context h,
    count_separator_aliasFragments before after, fun hclosed => occurrences_unquoted hclosed h⟩

/-- A second alias goes into the first one. -/
theorem cutOnce_wrap_twoAliases :
    splitAlias? "u.id AS i as j".toList = some ("u.id".toList, "i as j".toList) ∧
      CutOnce "u.id AS i as j".toList "u.id".toList "i as j".toList ∧
      Naming.folded.wrap none "u.id AS i as j" = "\"U\".\"ID\" as \"I AS J\"" ∧
      (∀ segment, Closed (Naming.folded none segment)) ∧
      occurrences " as " (unquoted (Naming.folded.wrap none "u.id AS i as j")) = 1 := by
  have hsplit : splitAlias? "u.id AS i as j".toList = some ("u.id".toList, "i as j".toList) := rfl
  have hclosed : ∀ segment, Closed (Naming.folded none segment) := fun _ =>
    closed_quoteIdentifier _
  obtain ⟨hcut, hwrap, -, honce⟩ := cutOnce_wrap Naming.folded none hsplit
  exact ⟨hsplit, hcut, hwrap.trans rfl, hclosed, honce hclosed⟩

end SnowflakeSql
