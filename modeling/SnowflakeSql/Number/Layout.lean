import SnowflakeSql.Number.Shortest

/-!
# Written numbers

A `NumberStyle` fixes how a binary number is written: between which decimal points the plain
notation is used, whether a whole number keeps its point, whether an exponent has a plus sign,
and how equally near decimals are decided.  `NumberStyle.write` writes any number in it.
-/

namespace SnowflakeSql

/-- How numbers are written. -/
structure NumberStyle where
  /-- Whether a number with this decimal point is written without an exponent. -/
  isPlain : Int → Bool
  /-- Whether whole numbers in plain notation end in a point and a zero. -/
  wholePoint : Bool
  /-- Whether a positive exponent has a plus sign. -/
  exponentPlus : Bool
  /-- Whether the greater of two equally near decimals is taken, or else the even one. -/
  tieUp : Bool

namespace Decimal

/-- Plain notation. -/
def plain (wholePoint : Bool) (d : Decimal) : List Char :=
  if d.point ≤ 0 then '0' :: '.' :: (List.replicate (-d.point).toNat '0' ++ d.digits)
  else
    let point := d.point.toNat
    if d.digits.length ≤ point then
      d.digits ++ List.replicate (point - d.digits.length) '0' ++
        (if wholePoint then ['.', '0'] else [])
    else d.digits.take point ++ '.' :: d.digits.drop point

/-- One digit, a point with the other digits if there are any, and the exponent. -/
def scientific (exponentPlus : Bool) (d : Decimal) : List Char :=
  let exponent := d.point - 1
  let fraction := d.digits.drop 1
  d.digits.take 1 ++ (if fraction.isEmpty then [] else '.' :: fraction) ++ 'e' ::
    (if exponent < 0 then ['-'] else if exponentPlus then ['+'] else []) ++
    Nat.toDigits 10 exponent.natAbs

end Decimal

namespace NumberStyle

/-- The number written in the style. -/
def write (style : NumberStyle) (x : Binary64) : String :=
  let sign := if x.negative then "-" else ""
  if x.isNaN then "NaN"
  else if !x.isFinite then sign ++ "inf"
  else if x.isZero then sign ++ (if style.wholePoint then "0.0" else "0")
  else
    let d := x.shortest style.tieUp
    sign ++ String.ofList
      (if style.isPlain d.point then d.plain style.wholePoint
      else d.scientific style.exponentPlus)

end NumberStyle

end SnowflakeSql
