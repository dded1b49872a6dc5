import SnowflakeSql.Number.Binary64

/-!
# Shortest digits

`Binary64.shortest` gives the fewest decimal digits that read back to the same number, and of
those with that many digits the nearest to it.  The reals that round to a number form an
interval: up to half a unit of its significand to either side, a quarter below a power of two,
ends included when the significand is even.  For one, two, … seventeen digits the two
neighbours of the number on that decimal grid are tried; the first grid with a neighbour in
the interval is taken, and of two neighbours the nearer one.  `tieUp` says which one when they
are equally near: the greater, or else the even one.
-/

namespace SnowflakeSql

/-- A positive decimal `0.d₁d₂d₃… · 10 ^ point`, without zeros at the end. -/
structure Decimal where
  digits : List Char
  point : Int
  deriving DecidableEq, Repr

namespace Decimal

/-- The decimal `coefficient · 10 ^ (point - places)`, where the coefficient has `places`
digits or is `10 ^ places`. -/
def ofCoefficient (coefficient places : Nat) (point : Int) : Decimal :=
  let digits := Nat.toDigits 10 coefficient
  ⟨(digits.reverse.dropWhile (· = '0')).reverse, point + (digits.length - places : Int)⟩

end Decimal

/-- The exponent of the least power of ten above a positive fraction. -/
def pointOf (num den : Nat) : Int :=
  if den ≤ num then (Nat.toDigits 10 (num / den)).length
  else 1 - ((Nat.toDigits 10 ((den - 1) / num)).length : Int)

/-- A positive number and the interval that rounds to it, as numerators over one
denominator. -/
structure RoundingInterval where
  below : Nat
  value : Nat
  above : Nat
  den : Nat
  closed : Bool

namespace RoundingInterval

/-- The interval of a finite positive number. -/
def ofBinary64 (x : Binary64) : RoundingInterval :=
  let m := x.significand
  let e := x.exponent - 2
  let scale := 1 <<< e.toNat
  let gap := if x.fraction = 0 ∧ 1 < x.exponentField then 1 else 2
  ⟨(4 * m - gap) * scale, 4 * m * scale, (4 * m + 2) * scale, 1 <<< (-e).toNat,
    decide (m % 2 = 0)⟩

/-- Whether the fraction lies in the interval. -/
def contains (i : RoundingInterval) (num den : Nat) : Bool :=
  let low := i.below * den
  let high := i.above * den
  let x := num * i.den
  if i.closed then decide (low ≤ x) && decide (x ≤ high)
  else decide (low < x) && decide (x < high)

/-- The better neighbour of the value among the decimals with `places` digits, if one lies in
the interval. -/
def onGrid? (tieUp : Bool) (i : RoundingInterval) (point : Int) (places : Nat) : Option Nat :=
  let e := point - places
  let up := Nat.pow 10 e.toNat
  let down := Nat.pow 10 (-e).toNat
  let t := i.value * down / (i.den * up)
  let lower := i.contains (t * up) down
  let upper := i.contains ((t + 1) * up) down
  let excess := 2 * (i.value * down - t * (i.den * up))
  let unit := i.den * up
  if lower && upper then
    if excess < unit then some t
    else if unit < excess then some (t + 1)
    else if tieUp || t % 2 = 1 then some (t + 1)
    else some t
  else if lower then some t
  else if upper then some (t + 1)
  else none

/-- The first grid from `places` on with a decimal in the interval, `fuel` grids tried. -/
def search (tieUp : Bool) (i : RoundingInterval) (point : Int) : Nat → Nat → Decimal
  | 0, places => Decimal.ofCoefficient (i.value / i.den) places point
  | fuel + 1, places =>
    match onGrid? tieUp i point places with
    | some c => Decimal.ofCoefficient c places point
    | none => search tieUp i point fuel (places + 1)

end RoundingInterval

/-- The shortest decimal that reads back to a finite positive number; the sign is left out. -/
def Binary64.shortest (tieUp : Bool) (x : Binary64) : Decimal :=
  let i := RoundingInterval.ofBinary64 x
  i.search tieUp (pointOf i.value i.den) 17 1

example : (Binary64.nearest false 1 10).shortest false = ⟨['1'], 0⟩ := by decide +kernel

/-- The least positive number takes one digit. -/
example : (Binary64.mk 1).shortest false = ⟨['5'], -323⟩ := by decide +kernel

end SnowflakeSql
