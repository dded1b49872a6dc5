import Mathlib.Data.List.TakeWhile

/-!
# Runs of characters

A run of characters of one kind goes as far as it can: where what follows does not begin with
that kind, it is cut off whole (`takeWhile_run`) and nothing else with it (`dropWhile_run`).  What
begins with another kind begins behind the run (`suffix_of_suffix_run`), and a text up to its first
mark is told from what follows the mark (`append_mark_inj`).
-/

namespace SnowflakeSql.Text

variable {p : Char → Bool} {run rest : List Char}

theorem takeWhile_run (hrun : ∀ c ∈ run, p c = true) (hrest : ∀ c ∈ rest.head?, p c = false) :
    (run ++ rest).takeWhile p = run := by
  rw [List.takeWhile_append_of_pos hrun]
  cases rest with
  | nil => exact List.append_nil run
  | cons c rest =>
    rw [List.takeWhile_cons_of_neg (by simp [hrest c rfl]), List.append_nil]

theorem dropWhile_run (hrun : ∀ c ∈ run, p c = true) (hrest : ∀ c ∈ rest.head?, p c = false) :
    (run ++ rest).dropWhile p = rest := by
  rw [List.dropWhile_append_of_pos hrun]
  cases rest with
  | nil => rfl
  | cons c rest => exact List.dropWhile_cons_of_neg (by simp [hrest c rfl])

theorem suffix_of_suffix_run {cs : List Char} (hrun : ∀ c ∈ run, p c = true)
    (hcs : ∀ c ∈ cs.head?, p c = false) (h : cs <:+ run ++ rest) : cs <:+ rest := by
  induction run with
  | nil => exact h
  | cons d run ih =>
    rcases List.suffix_cons_iff.mp h with heq | h
    · have hd : p d = false := hcs d (heq ▸ rfl)
      rw [hrun d List.mem_cons_self] at hd
      cases hd
    · exact ih (fun c hc => hrun c (List.mem_cons_of_mem d hc)) h

theorem append_mark_inj {mark : Char} {cs ds rest rest' : List Char} (hcs : mark ∉ cs)
    (hds : mark ∉ ds) (h : cs ++ mark :: rest = ds ++ mark :: rest') : cs = ds ∧ rest = rest' := by
  have hfirst : ∀ {xs ys : List Char}, mark ∉ xs →
      (xs ++ mark :: ys).takeWhile (· ≠ mark) = xs := fun hxs =>
    takeWhile_run (fun c hc => decide_eq_true fun heq => hxs (heq ▸ hc))
      fun c hc => decide_eq_false fun hne => hne (Option.some.inj hc).symm
  have heq : cs = ds := by rw [← hfirst hcs, h, hfirst hds]
  subst heq
  exact ⟨rfl, (List.cons.inj (List.append_cancel_left h)).2⟩

end SnowflakeSql.Text
