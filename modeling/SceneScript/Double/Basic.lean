/-!
# Double precision numbers

A number of the binary format with 64 bits, held as its bit pattern. Without the sign bit, the
patterns of the finite numbers count them upwards from zero, and every finite number is a whole
multiple of the least positive one, the *unit* `2 ^ -1074`. All arithmetic below is on these whole
numbers, so it is exact up to the one rounding that the format asks for.

* `Double.units`: a finite number in units.
* `Double.nearestPattern`: rounding to nearest, a tie to the even pattern.
* `Double.ofRatio`, `Double.mul`, `Double.div`: a quotient, a product rounded once.
* `Double.ofDecimal`: a decimal number, correctly rounded.
-/

namespace SceneScript

/-- A binary floating point number of 64 bits, by its pattern. -/
structure Double where
  bits : UInt64
deriving DecidableEq, Inhabited

namespace Double

/-! ## Patterns -/

/-- The sign bit. -/
def signBit : Nat := Nat.pow 2 63

/-- How many patterns share their exponent bits. -/
def binade : Nat := Nat.pow 2 52

/-- The pattern of infinity: the exponent bits are all set. -/
def infinityPattern : Nat := 2047 * binade

/-- The pattern of a number without its sign bit. -/
def pattern (x : Double) : Nat := x.bits.toNat % signBit

/-- The sign bit is set. -/
def isNegative (x : Double) : Bool := signBit ≤ x.bits.toNat

/-- Neither infinite nor "not a number". -/
def isFinite (x : Double) : Bool := x.pattern < infinityPattern

/-- Not a number. -/
def isNaN (x : Double) : Bool := infinityPattern < x.pattern

/-- The number of a sign and of a pattern without sign bit. -/
def ofPattern (negative : Bool) (pattern : Nat) : Double :=
  ⟨(if negative then pattern + signBit else pattern).toUInt64⟩

/-- The number with the other sign. -/
def neg (x : Double) : Double := ofPattern (!x.isNegative) x.pattern

/-- Positive zero. -/
def zero : Double := ofPattern false 0

/-- Positive or negative infinity. -/
def infinity (negative : Bool) : Double := ofPattern negative infinityPattern

/-- The number that is none. -/
def nan : Double := ofPattern false (infinityPattern + binade / 2)

/-! ## Values -/

/-- The value of a pattern in units. The lowest patterns count units one by one; above them the
step doubles whenever the exponent grows. -/
def unitsOfPattern (pattern : Nat) : Nat :=
  if pattern < binade then pattern
  else (binade + pattern % binade) * Nat.pow 2 (pattern / binade - 1)

/-- The absolute value of a finite number in units. -/
def units (x : Double) : Nat := unitsOfPattern x.pattern

/-- One as a number of units. -/
def one : Nat := Nat.pow 2 1074

/-- The absolute value is a whole number. -/
def isWhole (x : Double) : Bool := x.units % one == 0

/-! ## Rounding -/

/-- The pattern nearest to `num / den` units; of two equally near ones the even one. What lies
beyond the finite numbers becomes infinity. -/
def nearestPattern (num den : Nat) : Nat :=
  let shift := (num / den).log2 - 52
  let step := den * Nat.pow 2 shift
  let below := num / step
  let excess := 2 * (num % step)
  let rounded :=
    if step < excess ∨ (excess = step ∧ below % 2 = 1) then below + 1 else below
  min (shift * binade + rounded) infinityPattern

/-- The number nearest to `num / den`, with a sign. -/
def ofRatio (negative : Bool) (num den : Nat) : Double :=
  ofPattern negative (nearestPattern (num * one) den)

/-- The number nearest to a natural number. -/
def ofNat (n : Nat) : Double := ofRatio false n 1

/-- The number nearest to an integer. -/
def ofInt (n : Int) : Double := ofRatio (n < 0) n.natAbs 1

/-- The product of the absolute values of two finite numbers. -/
def mul (x y : Double) : Double :=
  ofPattern false (nearestPattern (x.units * y.units) one)

/-- The quotient of the absolute values of two finite numbers, the second one not zero. -/
def div (x y : Double) : Double :=
  ofPattern false (nearestPattern (x.units * one) y.units)

/-! ## Decimal numbers -/

/-- How many decimal digits a number has. -/
def digitCount (n : Nat) : Nat := (Nat.toDigits 10 n).length

/-- The number nearest to `coefficient * 10 ^ exponent`, with a sign. Decimal numbers far outside
the range are settled by their size alone. -/
def ofDecimal (negative : Bool) (coefficient : Nat) (exponent : Int) : Double :=
  let size := (digitCount coefficient : Int) + exponent
  if coefficient = 0 ∨ size < -330 then ofPattern negative 0
  else if 330 < size then infinity negative
  else if 0 ≤ exponent then ofRatio negative (coefficient * Nat.pow 10 exponent.toNat) 1
  else ofRatio negative coefficient (Nat.pow 10 (-exponent).toNat)

end Double

end SceneScript
