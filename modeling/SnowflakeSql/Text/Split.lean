/-!
# Splitting and joining

`splitOn mark` cuts a text at every `mark`: a text with `n` marks gives `n + 1` parts.
`splitLast?` cuts at the last mark only.  `commaJoin` writes a list with commas.
-/

namespace SnowflakeSql.Text

/-- The parts of a text between the marks; at least one, and no mark in any. -/
def splitOn (mark : Char) : List Char → List (List Char)
  | [] => [[]]
  | c :: cs =>
    if c = mark then [] :: splitOn mark cs
    else
      match splitOn mark cs with
      | [] => [[c]]
      | part :: parts => (c :: part) :: parts

/-- The text before and after the last mark. -/
def splitLast? (mark : Char) : List Char → Option (List Char × List Char)
  | [] => none
  | c :: cs =>
    match splitLast? mark cs with
    | some (before, after) => some (c :: before, after)
    | none => if c = mark then some ([], cs) else none

/-- The strings with a comma and a space between them. -/
abbrev commaJoin (parts : List String) : String := ", ".intercalate parts

/-- The separator stands before every string but the first. -/
theorem intercalate_cons (separator first : String) (rest : List String) :
    separator.intercalate (first :: rest) = first ++ String.join (rest.map (separator ++ ·)) := by
  induction rest generalizing first with
  | nil => simp
  | cons next rest ih =>
    rw [String.intercalate_cons_cons, ih, List.map_cons, String.join_cons, String.append_assoc,
      String.append_assoc]

theorem splitOn_ne_nil (mark : Char) (cs : List Char) : splitOn mark cs ≠ [] := by
  cases cs with
  | nil => simp [splitOn]
  | cons c cs =>
    simp only [splitOn]
    split
    · simp
    · split <;> simp

end SnowflakeSql.Text
