/-!
# Binary64 numbers

A `Binary64` is a double-precision number given by its 64 bits.  A finite one is
`significand · 2 ^ exponent` with a sign; `nearest` goes the other way and gives the number
closest to a fraction of naturals, a tie to the even significand and an overflow to infinity.
`mulMagnitude` and `divMagnitude` are the rounded product and quotient of magnitudes.  All of it
is exact arithmetic on naturals.
-/

namespace SnowflakeSql

/-- A double-precision binary number, given by its bits. -/
structure Binary64 where
  bits : UInt64
  deriving DecidableEq, Repr, Inhabited

namespace Binary64

/-- The weight of the sign bit. -/
def signWeight : Nat := 0x8000000000000000

/-- The weight of the lowest bit of the exponent, which is also the hidden bit's. -/
def hiddenBit : Nat := 0x10000000000000

/-- The exponent field of infinities and of what is not a number. -/
def topField : Nat := 2047

/-- Whether the sign bit is set. -/
def negative (x : Binary64) : Bool := decide (signWeight ≤ x.bits.toNat)

/-- The eleven bits of the exponent. -/
def exponentField (x : Binary64) : Nat := x.bits.toNat / hiddenBit % 2048

/-- The fifty-two bits of the fraction. -/
def fraction (x : Binary64) : Nat := x.bits.toNat % hiddenBit

/-- Whether the number is neither infinite nor undefined. -/
def isFinite (x : Binary64) : Bool := decide (x.exponentField < topField)

/-- Whether the bits stand for no number. -/
def isNaN (x : Binary64) : Bool := decide (x.exponentField = topField) && decide (x.fraction ≠ 0)

/-- Whether the number is a zero of either sign. -/
def isZero (x : Binary64) : Bool := decide (x.exponentField = 0) && decide (x.fraction = 0)

/-- The significand of a finite number, with the hidden bit. -/
def significand (x : Binary64) : Nat :=
  if x.exponentField = 0 then x.fraction else x.fraction + hiddenBit

/-- The power of two that the significand of a finite number is counted in. -/
def exponent (x : Binary64) : Int := (max 1 x.exponentField : Nat) - 1075

/-- The number with the given sign and the remaining 63 bits. -/
def ofSigned (negative : Bool) (magnitude : Nat) : Binary64 :=
  ⟨UInt64.ofNat (if negative then signWeight + magnitude else magnitude)⟩

/-- The infinity of the given sign. -/
def infinity (negative : Bool) : Binary64 := ofSigned negative (topField * hiddenBit)

/-- The bits that stand for no number. -/
def nan : Binary64 := ofSigned false (topField * hiddenBit + hiddenBit / 2)

/-- The quotient rounded to the nearest natural, a tie to the even one. -/
def roundHalfEven (num den : Nat) : Nat :=
  let q := num / den
  let twice := 2 * (num % den)
  if twice < den then q else if den < twice then q + 1 else q + q % 2

/-- The exponent of the power of two at or below a positive fraction. -/
def log2Floor (num den : Nat) : Int :=
  let guess : Int := num.log2 - den.log2
  let atLeast := if 0 ≤ guess then den <<< guess.toNat ≤ num else den ≤ num <<< (-guess).toNat
  if atLeast then guess else guess - 1

/-- The number nearest to a fraction. -/
def nearest (negative : Bool) (num den : Nat) : Binary64 :=
  if num = 0 ∨ den = 0 then ofSigned negative 0
  else
    let unit := max (log2Floor num den - 52) (-1074)
    let m := roundHalfEven (num <<< (-unit).toNat) (den <<< unit.toNat)
    let magnitude := (unit + 1074).toNat * hiddenBit + m
    if topField * hiddenBit ≤ magnitude then infinity negative else ofSigned negative magnitude

/-- The number nearest to `m · 2 ^ e`. -/
def nearestScaled (negative : Bool) (m : Nat) (e : Int) : Binary64 :=
  nearest negative (m <<< e.toNat) (1 <<< (-e).toNat)

/-- The number nearest to the product of two finite magnitudes. -/
def mulMagnitude (x y : Binary64) : Binary64 :=
  nearestScaled false (x.significand * y.significand) (x.exponent + y.exponent)

/-- The number nearest to the quotient of two finite magnitudes. -/
def divMagnitude (x y : Binary64) : Binary64 :=
  let e := x.exponent - y.exponent
  nearest false (x.significand <<< e.toNat) (y.significand <<< (-e).toNat)

/-- The number with its sign turned. -/
def neg (x : Binary64) : Binary64 := ⟨x.bits ^^^ 0x8000000000000000⟩

theorem roundHalfEven_one (n : Nat) : roundHalfEven n 1 = n := by
  simp [roundHalfEven, Nat.mod_one]

example : nearest false 1 10 = ⟨0x3FB999999999999A⟩ := by decide +kernel

/-- Half the least positive number goes to the even neighbour, which is zero. -/
example : nearest false 1 (1 <<< 1075) = ⟨0⟩ := by decide +kernel

end Binary64

end SnowflakeSql
