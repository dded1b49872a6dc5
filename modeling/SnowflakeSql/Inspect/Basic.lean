import SnowflakeSql.Number.Layout
import SnowflakeSql.Text.Split
import SnowflakeSql.Text.Unprinted

/-!
# Inspection texts

People who look into a program see its values as inspection texts.  Strings are quoted, with
escapes for the quotation mark, the backslash, the common controls and every character that is
not shown as it stands.  Records are written with their fields by name, and may end in two
dots for what is not shown.
-/

namespace SnowflakeSql.Inspect

open Text

/-- How numbers are shown: plain from one ten-thousandth up to sixteen places, a point always,
and of equally near decimals the greater. -/
def numberStyle : NumberStyle where
  isPlain point := decide (-4 < point) && decide (point ≤ 16)
  wholePoint := true
  exponentPlus := false
  tieUp := true

/-- A character of a quoted string. -/
def charText (c : Char) : List Char :=
  match c with
  | '"' => ['\\', '"']
  | '\\' => ['\\', '\\']
  | '\n' => ['\\', 'n']
  | '\r' => ['\\', 'r']
  | '\t' => ['\\', 't']
  | '\x00' => ['\\', '0']
  | c =>
    if isUnprinted c then ['\\', 'u', '\x7b'] ++ Nat.toDigits 16 c.toNat ++ ['\x7d'] else [c]

/-- A quoted string. -/
def string (s : String) : String :=
  String.ofList ('"' :: (s.toList.flatMap charText ++ ['"']))

/-- A truth value. -/
def bool (b : Bool) : String := if b then "true" else "false"

/-- A constructor with what it holds. -/
def apply (name content : String) : String := name ++ "(" ++ content ++ ")"

/-- Something that may be absent. -/
def option {α : Type} (text : α → String) : Option α → String
  | some x => apply "Some" (text x)
  | none => "None"

/-- A list. -/
def list {α : Type} (text : α → String) (items : List α) : String :=
  "[" ++ commaJoin (items.map text) ++ "]"

/-- Texts between braces, without blanks inside. -/
def braces (content : String) : String := "\x7b" ++ content ++ "\x7d"

/-- A record with the given fields, and two dots if it is not shown whole. -/
def record (name : String) (fields : List (String × String)) (isWhole : Bool) : String :=
  let shown := fields.map fun field => field.1 ++ ": " ++ field.2
  name ++ " " ++ braces (" " ++ commaJoin (if isWhole then shown else shown ++ [".."]) ++ " ")

example : string "a\"\n\x1b" = "\"a\\\"\\n\\u\x7b1b\x7d\"" := by decide +kernel

end SnowflakeSql.Inspect
