import SnowflakeSql.Text.Ranges

/-!
# Blanks

`isBlank` is the White_Space property: tabs, line ends, the spaces of every width, and neither
the zero-width characters nor the information separators.  `trim` takes the blanks off both
ends of a text, and `allBlank` tells whether nothing else is in it.
-/

namespace SnowflakeSql.Text

/-- The characters with the White_Space property. -/
def blankRanges : Ranges :=
  [(9, 13), (32, 32), (133, 133), (160, 160), (5760, 5760), (8192, 8202), (8232, 8233),
    (8239, 8239), (8287, 8287), (12288, 12288)]

/-- Whether the character is white space. -/
def isBlank (c : Char) : Bool := blankRanges.contains c

/-- The text without the blanks at its end. -/
def trimEnd (cs : List Char) : List Char := (cs.reverse.dropWhile isBlank).reverse

/-- The text without the blanks at both ends. -/
def trim (cs : List Char) : List Char := trimEnd (cs.dropWhile isBlank)

/-- Whether the text has no character that is not a blank. -/
def allBlank (cs : List Char) : Bool := cs.all isBlank

theorem isBlank_of_isWhitespace (c : Char) (h : c.isWhitespace = true) : isBlank c = true := by
  simp only [Char.isWhitespace, Bool.or_eq_true, decide_eq_true_eq] at h
  rcases h with ((rfl | rfl) | rfl) | rfl <;> rfl

theorem allBlank_append (cs ds : List Char) :
    allBlank (cs ++ ds) = (allBlank cs && allBlank ds) := List.all_append

/-- The zero-width space is no blank, the ideographic space is one. -/
example : isBlank '\u200b' = false ∧ isBlank '\u3000' = true := by decide

example : trim " a b\u00a0".toList = "a b".toList := by decide

end SnowflakeSql.Text
