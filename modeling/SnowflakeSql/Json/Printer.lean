import SnowflakeSql.Json.Basic
import SnowflakeSql.Number.Layout

/-!
# The text of a JSON document

`Json.text` writes a document without blanks.  In strings the quotation mark, the backslash and
the controls below the space are escaped and nothing else is.  Numbers that are not integers
have their shortest digits: in plain notation with a point from `0.00001` up to
`1000000000000000.0`, and with a signed exponent beyond.
-/

namespace SnowflakeSql.Json

/-- How numbers are written in a document; of equally near decimals the even one is taken. -/
def numberStyle : NumberStyle where
  isPlain point := decide (-5 < point) && decide (point ≤ 16)
  wholePoint := true
  exponentPlus := true
  tieUp := false

/-- A digit of a hexadecimal number, in small letters. -/
def hexDigit (n : Nat) : Char := Nat.digitChar n

/-- A character of a string, escaped if it has to be. -/
def escapeChar (c : Char) : List Char :=
  match c with
  | '"' => ['\\', '"']
  | '\\' => ['\\', '\\']
  | '\n' => ['\\', 'n']
  | '\r' => ['\\', 'r']
  | '\t' => ['\\', 't']
  | '\x08' => ['\\', 'b']
  | '\x0c' => ['\\', 'f']
  | c =>
    if c.toNat < 32 then ['\\', 'u', '0', '0', hexDigit (c.toNat / 16), hexDigit (c.toNat % 16)]
    else [c]

/-- The string between quotation marks. -/
def stringText (s : String) : String :=
  String.ofList ('"' :: (s.toList.flatMap escapeChar ++ ['"']))

mutual

/-- The pieces of the text of a document, in order. -/
def pieces : Json → List String
  | .null => ["null"]
  | .bool true => ["true"]
  | .bool false => ["false"]
  | .int n => [toString n]
  | .float x => [if x.isFinite then numberStyle.write x else "null"]
  | .str s => [stringText s]
  | .arr items => "[" :: (itemPieces items ++ ["]"])
  | .obj fields => "\x7b" :: (fieldPieces fields ++ ["\x7d"])

/-- The pieces of items, with commas between. -/
def itemPieces : List Json → List String
  | [] => []
  | [item] => pieces item
  | item :: next :: rest => pieces item ++ "," :: itemPieces (next :: rest)

/-- The pieces of fields, with commas between. -/
def fieldPieces : List (String × Json) → List String
  | [] => []
  | [(key, value)] => stringText key :: ":" :: pieces value
  | (key, value) :: next :: rest =>
    stringText key :: ":" :: (pieces value ++ "," :: fieldPieces (next :: rest))

end

/-- The document without blanks. -/
def text (json : Json) : String := String.join json.pieces

example : text (.arr [.int (-1), .str "a\"\n\x1f"]) = "[-1,\"a\\\"\\n\\u001f\"]" := by
  decide +kernel

end SnowflakeSql.Json
