import SnowflakeSql.Number.Binary64

/-!
# Reading numbers

A `Numeral` is a decimal text taken apart: sign, the digits before and after the point, and
the exponent.  `Numeral.nearest` is the binary number closest to it.  `Numeral.scaled` is the
cheaper reading used for JSON documents: the leading digits that fit into 64 bits become one
binary number, which is then multiplied or divided by one power of ten, so two roundings may
move the last digit (`3e30` reads as the number written `3.0000000000000003e+30`).
-/

namespace SnowflakeSql

/-- A decimal text taken apart. -/
structure Numeral where
  negative : Bool
  whole : List Char
  fraction : List Char
  exponent : Int
  deriving DecidableEq, Repr

/-- The value of a string of decimal digits. -/
def digitsValue (cs : List Char) : Nat := cs.foldl (fun n c => 10 * n + (c.toNat - 48)) 0

/-- A sign, and what follows it. -/
def readSign : List Char → Bool × List Char
  | '-' :: cs => (true, cs)
  | '+' :: cs => (false, cs)
  | cs => (false, cs)

/-- The digits at the front, and what follows them. -/
def readDigits (cs : List Char) : List Char × List Char :=
  (cs.takeWhile Char.isDigit, cs.dropWhile Char.isDigit)

/-- The exponent part at the front: nothing is no exponent; a letter e needs digits. -/
def readExponent? : List Char → Option (Int × List Char)
  | c :: cs =>
    if c = 'e' ∨ c = 'E' then
      let (negative, cs) := readSign cs
      let (digits, rest) := readDigits cs
      if digits.isEmpty then none
      else
        let n : Int := digitsValue digits
        some (if negative then -n else n, rest)
    else some (0, c :: cs)
  | [] => some (0, [])

namespace Numeral

/-- The binary number nearest to the decimal.  An exponent beyond all numbers is not
computed. -/
def nearest (n : Numeral) : Binary64 :=
  let digits := (n.whole ++ n.fraction).dropWhile (· = '0')
  let m := digitsValue digits
  let e := n.exponent - n.fraction.length
  if m = 0 then .ofSigned n.negative 0
  else if 400 < e + digits.length then .infinity n.negative
  else if e + digits.length < -400 then .ofSigned n.negative 0
  else .nearest n.negative (m * Nat.pow 10 e.toNat) (Nat.pow 10 (-e).toNat)

/-- The leading digits that fit into 64 bits, and how many are left over. -/
def leadingDigits : Nat → List Char → Nat × Nat
  | m, [] => (m, 0)
  | m, c :: cs =>
    let next := 10 * m + (c.toNat - 48)
    if next < UInt64.size then leadingDigits next cs else (m, (c :: cs).length)

/-- Multiplies by a power of ten in steps a binary number can hold; none on overflow. -/
def scaleTen? : Nat → Binary64 → Int → Option Binary64
  | 0, x, _ => some x
  | steps + 1, x, e =>
    if e.natAbs ≤ 308 then
      let power := Binary64.nearest false (Nat.pow 10 e.natAbs) 1
      if 0 ≤ e then
        let y := x.mulMagnitude power
        if y.isFinite then some y else none
      else some (x.divMagnitude power)
    else if x.isZero then some x
    else if 0 ≤ e then none
    else scaleTen? steps (x.divMagnitude (.nearest false (Nat.pow 10 308) 1)) (e + 308)

/-- The number by its leading digits and one power of ten; none on overflow. -/
def scaled? (n : Numeral) : Option Binary64 :=
  let (m, left) := leadingDigits 0 n.whole
  let (m, dropped) := leadingDigits m n.fraction
  let e := n.exponent + left - (n.fraction.length - dropped : Nat)
  (scaleTen? (e.natAbs / 308 + 1) (.nearest false m 1) e).map fun x =>
    if n.negative then x.neg else x

end Numeral

/-- Whether the text is the word, in capitals or not. -/
def isWord (word : String) (cs : List Char) : Bool :=
  cs.map Char.toLower == word.toList

/-- Reads a whole text as the nearest number: digits with at most one point, an exponent, or
the words for infinity and for no number. -/
def Binary64.ofText? (s : String) : Option Binary64 :=
  let (negative, cs) := readSign s.toList
  if isWord "nan" cs then some .nan
  else if isWord "inf" cs || isWord "infinity" cs then some (.infinity negative)
  else
    let (whole, rest) := readDigits cs
    let (fraction, rest) := match rest with
      | '.' :: rest => readDigits rest
      | rest => ([], rest)
    if whole.isEmpty && fraction.isEmpty then none
    else
      match readExponent? rest with
      | some (exponent, []) => some (Numeral.mk negative whole fraction exponent).nearest
      | _ => none

example : Binary64.ofText? "-0.1" = some (.nearest true 1 10) := by decide +kernel

/-- Thirty zeros written out and written as an exponent read differently. -/
example :
    Numeral.scaled? ⟨false, ['3'], [], 30⟩ ≠ some (Numeral.nearest ⟨false, ['3'], [], 30⟩) := by
  decide +kernel

end SnowflakeSql
