import SnowflakeSql.Json.Basic
import SnowflakeSql.Number.Reading

/-!
# Reading a JSON document

`Json.ofText?` reads a document that is the whole text.  A number without point and exponent is
an integer when it fits into 64 bits, with or without a sign, and otherwise a binary number by
`Numeral.scaled?`; minus zero is a binary number.  Escaped surrogates must come in pairs.
-/

namespace SnowflakeSql.Json

/-- The text after the blanks of the notation. -/
def skipBlanks (cs : List Char) : List Char :=
  cs.dropWhile fun c => c = ' ' ∨ c = '\n' ∨ c = '\r' ∨ c = '\t'

/-- The value of a hexadecimal digit. -/
def hexValue? (c : Char) : Option Nat :=
  if '0' ≤ c ∧ c ≤ '9' then some (c.toNat - 48)
  else if 'a' ≤ c ∧ c ≤ 'f' then some (c.toNat - 87)
  else if 'A' ≤ c ∧ c ≤ 'F' then some (c.toNat - 55)
  else none

/-- The value of four hexadecimal digits. -/
def unitValue? (a b c d : Char) : Option Nat := do
  return (((← hexValue? a) * 16 + (← hexValue? b)) * 16 + (← hexValue? c)) * 16 + (← hexValue? d)

/-- The character of a single escape letter. -/
def unescape? : Char → Option Char
  | '"' => some '"'
  | '\\' => some '\\'
  | '/' => some '/'
  | 'b' => some '\x08'
  | 'f' => some '\x0c'
  | 'n' => some '\n'
  | 'r' => some '\r'
  | 't' => some '\t'
  | _ => none

/-- Reads a string up to its closing mark; `read` is what has been read, backwards. -/
def readString? (read : List Char) : List Char → Option (String × List Char)
  | '"' :: rest => some (String.ofList read.reverse, rest)
  | '\\' :: 'u' :: a :: b :: c :: d :: rest => do
    let unit ← unitValue? a b c d
    if 0xD800 ≤ unit ∧ unit < 0xDC00 then
      match rest with
      | '\\' :: 'u' :: a :: b :: c :: d :: rest =>
        let low ← unitValue? a b c d
        if 0xDC00 ≤ low ∧ low < 0xE000 then
          readString? (Char.ofNat (0x10000 + (unit - 0xD800) * 1024 + (low - 0xDC00)) :: read) rest
        else none
      | _ => none
    else if 0xDC00 ≤ unit ∧ unit < 0xE000 then none
    else readString? (Char.ofNat unit :: read) rest
  | '\\' :: c :: rest => do readString? ((← unescape? c) :: read) rest
  | c :: rest => if c.toNat < 32 then none else readString? (c :: read) rest
  | [] => none

/-- Whether nothing that makes a number no integer follows its whole digits. -/
def endsWhole (cs : List Char) : Bool :=
  match cs with
  | c :: _ => c != '.' && c != 'e' && c != 'E'
  | [] => true

/-- Reads a number. -/
def readNumber? (cs : List Char) : Option (Json × List Char) := do
  let (negative, cs) := match cs with
    | '-' :: cs => (true, cs)
    | cs => (false, cs)
  let (whole, rest) := readDigits cs
  if whole.isEmpty ∨ (whole.head? = some '0' ∧ 1 < whole.length) then none
  else
    let (fraction, rest') := match rest with
      | '.' :: rest => readDigits rest
      | rest => ([], rest)
    if rest.head? = some '.' ∧ fraction.isEmpty then none
    else
      let (exponent, rest'') ← readExponent? rest'
      let n := digitsValue whole
      if endsWhole rest ∧ !negative ∧ n < UInt64.size then some (.int n, rest'')
      else if endsWhole rest ∧ negative ∧ 0 < n ∧ n ≤ 0x8000000000000000 then
        some (.int (-n), rest'')
      else
        let x ← (Numeral.mk negative whole fraction exponent).scaled?
        some (.float x, rest'')

mutual

/-- Reads a value; `fuel` bounds the number of steps. -/
def readValue? (fuel : Nat) (cs : List Char) : Option (Json × List Char) :=
  match fuel with
  | 0 => none
  | fuel + 1 =>
    match skipBlanks cs with
    | 'n' :: 'u' :: 'l' :: 'l' :: rest => some (.null, rest)
    | 't' :: 'r' :: 'u' :: 'e' :: rest => some (.bool true, rest)
    | 'f' :: 'a' :: 'l' :: 's' :: 'e' :: rest => some (.bool false, rest)
    | '"' :: rest => (readString? [] rest).map fun (s, rest) => (.str s, rest)
    | '[' :: rest =>
      match skipBlanks rest with
      | ']' :: rest => some (.arr [], rest)
      | rest => (readItems? fuel rest).map fun (items, rest) => (.arr items, rest)
    | '\x7b' :: rest =>
      match skipBlanks rest with
      | '\x7d' :: rest => some (.obj [], rest)
      | rest => (readFields? fuel rest).map fun (fields, rest) => (.ofPairs fields, rest)
    | rest => readNumber? rest

/-- Reads the items of an array, to its end. -/
def readItems? (fuel : Nat) (cs : List Char) : Option (List Json × List Char) :=
  match fuel with
  | 0 => none
  | fuel + 1 => do
    let (item, rest) ← readValue? fuel cs
    match skipBlanks rest with
    | ',' :: rest => (readItems? fuel rest).map fun (items, rest) => (item :: items, rest)
    | ']' :: rest => some ([item], rest)
    | _ => none

/-- Reads the fields of an object, to its end. -/
def readFields? (fuel : Nat) (cs : List Char) : Option (List (String × Json) × List Char) :=
  match fuel with
  | 0 => none
  | fuel + 1 =>
    match skipBlanks cs with
    | '"' :: rest => do
      let (key, rest) ← readString? [] rest
      match skipBlanks rest with
      | ':' :: rest =>
        let (value, rest) ← readValue? fuel rest
        match skipBlanks rest with
        | ',' :: rest =>
          (readFields? fuel rest).map fun (fields, rest) => ((key, value) :: fields, rest)
        | '\x7d' :: rest => some ([(key, value)], rest)
        | _ => none
      | _ => none
    | _ => none

end

/-- Reads a document that is the whole text. -/
def ofText? (s : String) : Option Json :=
  match readValue? (2 * s.length + 1) s.toList with
  | some (json, rest) => if (skipBlanks rest).isEmpty then some json else none
  | none => none

end SnowflakeSql.Json
