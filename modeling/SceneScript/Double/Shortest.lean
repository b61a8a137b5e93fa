import SceneScript.Double.Basic

/-!
# Shortest decimal form

The decimal numbers that round to a given double lie between the midpoints to its neighbours. Of
these the shortest one is written: the one on the coarsest grid `10 ^ p` that has a point there,
and of the points on that grid the nearest to the value.

* `Decimal`: a coefficient and a power of ten.
* `Double.shortest`: the shortest decimal form of a positive finite double.
-/

namespace SceneScript

/-- The decimal number `coefficient * 10 ^ exponent`. -/
structure Decimal where
  coefficient : Nat
  exponent : Int
deriving DecidableEq, Repr

/-- Which of two equally near decimal numbers is written. -/
inductive Tie where
  | up
  | toEven
deriving DecidableEq, Repr

/-- The real numbers that round to a double, as multiples of half a unit. -/
structure RoundingInterval where
  low : Nat
  value : Nat
  high : Nat
  /-- The end points belong to the interval. -/
  closed : Bool

namespace RoundingInterval

/-- The interval of a positive finite pattern: up to the midpoints to its two neighbours. These
midpoints round to the even pattern. -/
def ofPattern (pattern : Nat) : RoundingInterval where
  low := Double.unitsOfPattern (pattern - 1) + Double.unitsOfPattern pattern
  value := 2 * Double.unitsOfPattern pattern
  high := Double.unitsOfPattern pattern + Double.unitsOfPattern (pattern + 1)
  closed := pattern % 2 == 0

/-- The quotient `num / den` lies in the interval. -/
def contains (i : RoundingInterval) (num den : Nat) : Bool :=
  if i.closed then i.low * den ≤ num && num ≤ i.high * den
  else i.low * den < num && num < i.high * den

/-- The point nearest to the value among those that the grid of step `num / den` has in the
interval, as a multiple of the step. -/
def nearestOnGrid (i : RoundingInterval) (tie : Tie) (num den : Nat) : Option Nat :=
  let below := i.value * den / num
  let excess := 2 * (i.value * den % num)
  let upward := num < excess ∨ (excess = num ∧ (tie = .up ∨ below % 2 = 1))
  match i.contains (below * num) den, i.contains ((below + 1) * num) den with
  | false, false => none
  | true, false => some below
  | false, true => some (below + 1)
  | true, true => some (if upward then below + 1 else below)

/-- The nearest point on the grid `10 ^ p`. -/
def onDecimalGrid (i : RoundingInterval) (tie : Tie) (p : Int) : Option Decimal :=
  let halves := 2 * Double.one
  let point :=
    if 0 ≤ p then i.nearestOnGrid tie (Nat.pow 10 p.toNat * halves) 1
    else i.nearestOnGrid tie halves (Nat.pow 10 (-p).toNat)
  point.map fun c => ⟨c, p⟩

end RoundingInterval

/-- The powers of ten that can be the last place of a shortest form, from the coarsest down. -/
def decimalGrids : List Int :=
  (List.range 633).map fun (i : Nat) => 308 - (i : Int)

/-- The shortest decimal form of the absolute value of a finite double other than zero. -/
def Double.shortest (tie : Tie) (x : Double) : Decimal :=
  let interval := RoundingInterval.ofPattern x.pattern
  (decimalGrids.findSome? (interval.onDecimalGrid tie)).getD ⟨0, 0⟩

end SceneScript
