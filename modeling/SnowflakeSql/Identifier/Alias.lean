import SnowflakeSql.Text.Blank

/-!
# Aliases

In `name as n` the word "as" between blanks separates a name from its alias.  The word may be
in capitals, and the long s counts as an s.  `splitAlias?` cuts a text at the leftmost such
word; the blanks on both sides go with it.  What stands before the cut has no such word any
more, so cutting once is enough.
-/

namespace SnowflakeSql.Identifier

open Text

/-- Whether the character is an a in either case. -/
def isLetterA (c : Char) : Bool := c = 'a' || c = 'A'

/-- Whether the character is an s in either case, or a long s. -/
def isLetterS (c : Char) : Bool := c = 's' || c = 'S' || c = 'ſ'

/-- What follows the separating word, if the text begins with it and a blank before it. -/
def afterAlias? (cs : List Char) : Option (List Char) :=
  match cs with
  | [] => none
  | c :: _ =>
    if isBlank c then
      match cs.dropWhile isBlank with
      | a :: s :: b :: rest =>
        if isLetterA a && isLetterS s && isBlank b then some (rest.dropWhile isBlank) else none
      | _ => none
    else none

/-- The texts before and after the leftmost separating word. -/
def splitAlias? : List Char → Option (List Char × List Char)
  | [] => none
  | c :: cs =>
    match afterAlias? (c :: cs) with
    | some after => some ([], after)
    | none => (splitAlias? cs).map fun (before, after) => (c :: before, after)

theorem length_of_splitAlias? {cs before after : List Char}
    (h : splitAlias? cs = some (before, after)) : before.length < cs.length := by
  induction cs generalizing before with
  | nil => simp [splitAlias?] at h
  | cons c cs ih =>
    simp only [splitAlias?] at h
    split at h
    · simp only [Option.some.injEq, Prod.mk.injEq] at h
      simp [← h.1]
    · simp only [Option.map_eq_some_iff, Prod.mk.injEq, Prod.exists] at h
      obtain ⟨b, a, hs, rfl, rfl⟩ := h
      have := ih hs
      simp; omega

example : splitAlias? "u.id  AS i as j".toList = some ("u.id".toList, "i as j".toList) := by
  rfl

/-- The word needs a blank on both sides. -/
example : splitAlias? "alias as".toList = none := rfl

end SnowflakeSql.Identifier
