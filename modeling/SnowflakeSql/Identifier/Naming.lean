import SnowflakeSql.Context
import SnowflakeSql.Identifier.Alias
import SnowflakeSql.Text.Casing
import SnowflakeSql.Text.Quoted
import SnowflakeSql.Text.Split

/-!
# Spelling identifiers

A `Naming` spells one segment of an identifier.  `Naming.wrap` spells a whole one: an alias is
cut off, the rest is cut at its dots, and each part, without the blanks around it, is spelled
on its own.  `quoteIdentifier` puts a segment between double quotes and leaves a lone star as
it is.  `Naming.plain` does only that; `Naming.folded` writes the segment in capitals first,
as the backend stores names that are not quoted, unless it begins with a quote.
-/

namespace SnowflakeSql

open Text Identifier

/-- The segment between double quotes; a star stays bare. -/
def quoteIdentifier (segment : String) : String :=
  if segment = "*" then "*" else encloseString '"' segment

/-- How one segment of an identifier is spelled, given the caller's context. -/
abbrev Naming := Option Context → String → String

namespace Naming

/-- Segments are quoted as they are. -/
def plain : Naming := fun _ segment => quoteIdentifier segment

/-- A segment that does not begin with a quote, in capitals. -/
def fold (segment : List Char) : List Char :=
  if segment.head? = some '"' then segment else upper segment

/-- Segments are quoted in capitals, and as they are if they begin with a quote. -/
def folded : Naming := fun _ segment => quoteIdentifier (String.ofList (fold segment.toList))

/-- A whole identifier, where `spell` spells its trimmed segments. -/
def wrapWith (spell : List Char → String) (cs : List Char) : String :=
  match _h : splitAlias? cs with
  | some (before, after) => wrapWith spell before ++ " as " ++ spell (trim after)
  | none => ".".intercalate ((splitOn '.' cs).map fun part => spell (trim part))
termination_by cs.length
decreasing_by exact length_of_splitAlias? _h

/-- The spelling of an identifier with dots and an alias. -/
def wrap (naming : Naming) (context : Option Context) (identifier : String) : String :=
  wrapWith (fun segment => naming context (String.ofList segment)) identifier.toList

/-- A list of columns; no columns are all columns. -/
def columnList (naming : Naming) (context : Option Context) (columns : List String) : String :=
  if columns.isEmpty then "*" else commaJoin (columns.map (naming.wrap context))

theorem columnList_of_ne_nil (naming : Naming) (context : Option Context) {columns : List String}
    (h : columns ≠ []) :
    naming.columnList context columns = commaJoin (columns.map (naming.wrap context)) := by
  simp [columnList, h]

theorem wrapWith_of_splitAlias? {spell : List Char → String} {cs before after : List Char}
    (h : splitAlias? cs = some (before, after)) :
    wrapWith spell cs = wrapWith spell before ++ " as " ++ spell (trim after) := by
  rw [wrapWith]
  split
  · next b a hs => rw [h] at hs; cases hs; rfl
  · next hs => rw [h] at hs; cases hs

theorem wrapWith_of_splitAlias?_none {spell : List Char → String} {cs : List Char}
    (h : splitAlias? cs = none) :
    wrapWith spell cs = ".".intercalate ((splitOn '.' cs).map fun part => spell (trim part)) := by
  rw [wrapWith]
  split
  · next b a hs => rw [h] at hs; cases hs
  · rfl

end Naming

/-- As many placeholders as there are values, with commas between. -/
def placeholders (count : Nat) : String := Text.commaJoin (List.replicate count "?")

example : quoteIdentifier "we\"ird" = "\"we\"\"ird\"" := rfl

end SnowflakeSql
