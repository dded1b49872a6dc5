import Mathlib.Data.List.Infix

/-!
# Phrases in texts

`occurrences` counts how often a phrase stands in a text.  A text that lacks a character of the
phrase does not have it, as the digits of a number lack every letter.  A phrase that begins and ends
with a mark stands once between texts without that mark (`occurrences_between`).
-/

namespace SnowflakeSql.Text

/-- How often the phrase stands in the text. -/
def occurrences (phrase text : String) : Nat :=
  text.toList.tails.countP phrase.toList.isPrefixOf

theorem occurrences_eq_zero {c : Char} {phrase text : String} (hc : c ∈ phrase.toList)
    (h : c ∉ text.toList) : occurrences phrase text = 0 := by
  refine List.countP_eq_zero.mpr fun tail htail hlead => h ?_
  have hsuffix := (List.mem_tails _ _).mp htail
  have hstart := List.isPrefixOf_iff_prefix.mp hlead
  exact hsuffix.mem (hstart.mem hc)

theorem countP_tails_append {mark : Char} {front : List Char} (h : mark ∉ front)
    (word cs : List Char) :
    (front ++ cs).tails.countP (mark :: word).isPrefixOf =
      cs.tails.countP (mark :: word).isPrefixOf := by
  induction front with
  | nil => rfl
  | cons c front ih =>
    rw [List.mem_cons, not_or] at h
    have hc : (mark == c) = false := beq_false_of_ne h.1
    have hfirst : ¬ (mark :: word).isPrefixOf (c :: (front ++ cs)) = true := by
      rw [List.isPrefixOf_cons_cons, hc, Bool.false_and]
      exact Bool.false_ne_true
    rw [List.cons_append, List.tails_cons, List.countP_cons_of_neg hfirst]
    exact ih h.2

/-- A second one would need a third mark. -/
theorem occurrences_between {mark : Char} {word front back : List Char} {phrase text : String}
    (hphrase : phrase.toList = mark :: (word ++ [mark]))
    (htext : text.toList = front ++ (phrase.toList ++ back))
    (hword : mark ∉ word) (hfront : mark ∉ front) (hback : mark ∉ back) :
    occurrences phrase text = 1 := by
  have hfirst : (mark :: (word ++ [mark])).isPrefixOf (mark :: (word ++ mark :: back)) = true := by
    rw [List.isPrefixOf_iff_prefix]
    exact ⟨back, by simp⟩
  have hlast : ¬ (mark :: (word ++ [mark])).isPrefixOf (mark :: back) = true := fun hlead => by
    have hstart := List.cons_prefix_cons.mp (List.isPrefixOf_iff_prefix.mp hlead)
    exact hback (hstart.2.mem (List.mem_append_right word List.mem_cons_self))
  have hnone := countP_tails_append hback (word ++ [mark]) []
  rw [List.append_nil] at hnone
  unfold occurrences
  rw [htext, hphrase, countP_tails_append hfront, List.cons_append, List.append_assoc,
    List.cons_append, List.nil_append, List.tails_cons, List.countP_cons_of_pos hfirst,
    countP_tails_append hword, List.tails_cons, List.countP_cons_of_neg hlast, hnone]
  rfl

theorem isDigit_of_mem_toString {n : Nat} {c : Char} (h : c ∈ (toString n).toList) :
    c.isDigit = true := by
  rw [Nat.toString_eq_repr, Nat.toList_repr] at h
  exact Nat.isDigit_of_mem_toDigits (by decide) (by decide) h

theorem not_mem_toString {c : Char} (h : c.isDigit = false) (n : Nat) :
    c ∉ (toString n).toList := fun hc => by
  rw [isDigit_of_mem_toString hc] at h
  cases h

end SnowflakeSql.Text
