import SceneScript.Double.Shortest

/-!
# Decimal text

How a decimal number is laid out: with a point at its place, or with an exponent.

* `Decimal.positional`, `Decimal.scientific`: the two notations.
* `Layout`, `Layout.write`: a format for finite doubles, built on their shortest decimal form.
-/

namespace SceneScript

namespace Decimal

/-- The digits of the coefficient. -/
def digits (d : Decimal) : List Char := Nat.toDigits 10 d.coefficient

/-- How many digits stand before the point; negative for zeros right behind it. -/
def point (d : Decimal) : Int := (d.digits.length : Int) + d.exponent

/-- All digits at their places. A whole number ends with `tail`. -/
def positional (d : Decimal) (tail : String) : String :=
  if 0 ≤ d.exponent then
    String.ofList (d.digits ++ List.replicate d.exponent.toNat '0') ++ tail
  else if 0 < d.point then
    String.ofList (d.digits.take d.point.toNat) ++ "." ++ String.ofList (d.digits.drop d.point.toNat)
  else
    "0." ++ String.ofList (List.replicate (-d.point).toNat '0' ++ d.digits)

/-- One digit before the point, and a signed exponent. -/
def scientific (d : Decimal) : String :=
  let mantissa := String.ofList (d.digits.take 1) ++
    (if d.digits.length ≤ 1 then "" else "." ++ String.ofList (d.digits.drop 1))
  let exponent := d.point - 1
  mantissa ++ (if exponent < 0 then "e-" else "e+") ++ toString exponent.natAbs

end Decimal

/-- A format for finite doubles. -/
structure Layout where
  /-- Which of two equally near shortest forms is written. -/
  tie : Tie
  /-- Written after a whole number. -/
  tail : String
  /-- The places of the point for which all digits are written. -/
  positional : Int → Bool

/-- The text of a finite double. -/
def Layout.write (l : Layout) (x : Double) : String :=
  let sign := if x.isNegative then "-" else ""
  if x.pattern = 0 then sign ++ "0" ++ l.tail
  else
    let d := x.shortest l.tie
    sign ++ (if l.positional d.point then d.positional l.tail else d.scientific)

end SceneScript
