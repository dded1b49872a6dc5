import SnowflakeSql.Text.Casing.Upper
import SnowflakeSql.Text.Casing.Lower
import SnowflakeSql.Text.Casing.Letters

/-!
# Upper and lower case

`upper` and `lower` map whole texts by the full case mappings, so one character may become
several.  `upper` maps each character on its own.  `lower` does so too except for the capital
sigma, which becomes the final form at the end of a word: after a cased letter and not before
one, where case-ignorable characters between are looked through.  `equalIgnoringCase` is the
plain comparison that knows the letters A to Z alone.
-/

namespace SnowflakeSql.Text

/-- The upper-case form of a character. -/
def upperChar (c : Char) : List Char := mapByRuns upperExpansions upperRuns c

/-- The lower-case form of a character that does not depend on its neighbours. -/
def lowerChar (c : Char) : List Char := mapByRuns lowerExpansions lowerRuns c

/-- The text in upper case. -/
def upper (cs : List Char) : List Char := cs.flatMap upperChar

/-- Whether the first character that is not case-ignorable is a cased letter. -/
def meetsCased (cs : List Char) : Bool :=
  match cs.dropWhile caseIgnorableRanges.contains with
  | [] => false
  | c :: _ => casedRanges.contains c

/-- The lower-case sigma for one that has `before`, read backwards, and `after` around it. -/
def lowerSigma (before after : List Char) : Char :=
  if meetsCased before && !meetsCased after then 'ς' else 'σ'

/-- The text in lower case, where `before` is what precedes it, read backwards. -/
def lowerAfter (before : List Char) : List Char → List Char
  | [] => []
  | c :: cs =>
    (if c = 'Σ' then [lowerSigma before cs] else lowerChar c) ++ lowerAfter (c :: before) cs

/-- The text in lower case. -/
def lower (cs : List Char) : List Char := lowerAfter [] cs

/-- The string in upper case. -/
def upperString (s : String) : String := String.ofList (upper s.toList)

/-- The string in lower case. -/
def lowerString (s : String) : String := String.ofList (lower s.toList)

/-- A letter from A to Z in lower case, any other character as it is. -/
def foldAscii (c : Char) : Char := if 'A' ≤ c ∧ c ≤ 'Z' then Char.ofNat (c.toNat + 32) else c

/-- Whether two strings are equal when A and a, …, Z and z are taken as one. -/
def equalIgnoringCase (s t : String) : Bool := s.toList.map foldAscii == t.toList.map foldAscii

theorem equalIgnoringCase_refl (s : String) : equalIgnoringCase s s = true := by
  simp [equalIgnoringCase]

theorem equalIgnoringCase_comm (s t : String) :
    equalIgnoringCase s t = equalIgnoringCase t s := by
  simp only [equalIgnoringCase]
  exact BEq.comm

example : upper "straße".toList = "STRASSE".toList := by decide +kernel

/-- The sigma at the end of a word has a form of its own. -/
example : lower "ΑΣ ΣΑ".toList = "ας σα".toList := by decide +kernel

end SnowflakeSql.Text
