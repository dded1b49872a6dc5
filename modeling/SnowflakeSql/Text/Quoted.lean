/-!
# Quoted text

A text is quoted by writing a quotation mark before it, after it, and twice for every mark
inside it (`enclose`).  `readEnclosed?` reads one quoted text off the front: the body with its
doubled marks made single, and what follows the closing mark.  `halve` makes doubled marks
single and lets a lone mark stand.  The same rule serves identifiers, quoted by `"`, and
literals, quoted by `'`.
-/

namespace SnowflakeSql.Text

/-- The text with every mark written twice. -/
def double (mark : Char) : List Char → List Char
  | [] => []
  | c :: cs => if c = mark then mark :: mark :: double mark cs else c :: double mark cs

/-- The text between two marks, with every mark inside it written twice. -/
def enclose (mark : Char) (cs : List Char) : List Char := mark :: (double mark cs ++ [mark])

/-- Makes each pair of marks one, from the left; a mark without a partner stays. -/
def halve (mark : Char) : List Char → List Char
  | c :: d :: cs =>
    if c = mark ∧ d = mark then mark :: halve mark cs else c :: halve mark (d :: cs)
  | cs => cs

/-- Reads to the mark that closes a quoted text: its body, and what follows the mark. -/
def readBody? (mark : Char) : List Char → Option (List Char × List Char)
  | [] => none
  | [c] => if c = mark then some ([], []) else none
  | c :: d :: cs =>
    if c = mark then
      if d = mark then (readBody? mark cs).map fun (body, rest) => (mark :: body, rest)
      else some ([], d :: cs)
    else (readBody? mark (d :: cs)).map fun (body, rest) => (c :: body, rest)

/-- Reads one quoted text: its body, and what follows it. -/
def readEnclosed? (mark : Char) : List Char → Option (List Char × List Char)
  | [] => none
  | c :: cs => if c = mark then readBody? mark cs else none

/-- The string between two marks, with every mark inside it written twice. -/
def encloseString (mark : Char) (s : String) : String := String.ofList (enclose mark s.toList)

/-- The string as a literal, between single quotes. -/
abbrev literal : String → String := encloseString '\''

theorem toList_encloseString (mark : Char) (s : String) :
    (encloseString mark s).toList = enclose mark s.toList := String.toList_ofList

theorem double_cons_mark (mark : Char) (cs : List Char) :
    double mark (mark :: cs) = mark :: mark :: double mark cs := if_pos rfl

theorem double_cons_of_ne {mark c : Char} (h : c ≠ mark) (cs : List Char) :
    double mark (c :: cs) = c :: double mark cs := if_neg h

/-- Every mark adds one character. -/
theorem length_double (mark : Char) (cs : List Char) :
    (double mark cs).length = cs.length + cs.count mark := by
  induction cs with
  | nil => rfl
  | cons c cs ih =>
    by_cases h : c = mark
    · rw [h, double_cons_mark, List.count_cons_self]
      simp only [List.length_cons, ih]
      omega
    · rw [double_cons_of_ne h, List.count_cons_of_ne h]
      simp only [List.length_cons, ih]
      omega

theorem double_eq_self {mark : Char} {cs : List Char} (h : mark ∉ cs) : double mark cs = cs := by
  induction cs with
  | nil => rfl
  | cons c cs ih =>
    simp only [List.mem_cons, not_or] at h
    simp [double, Ne.symm h.1, ih h.2]

theorem halve_double (mark : Char) (cs : List Char) : halve mark (double mark cs) = cs := by
  induction cs with
  | nil => rfl
  | cons c cs ih =>
    by_cases h : c = mark
    · simp [double, h, halve, ih]
    · simp only [double, h, if_false]
      cases hd : double mark cs with
      | nil => rw [hd] at ih; simpa [halve] using ih
      | cons d ds => rw [hd] at ih; simp [halve, h, ih]

example : enclose '\'' "it's".toList = "'it''s'".toList := by decide

example : readEnclosed? '"' "\"a\"\"b\".c".toList = some ("a\"b".toList, ".c".toList) := by decide

end SnowflakeSql.Text
