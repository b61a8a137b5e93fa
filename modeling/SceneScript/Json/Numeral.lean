import SceneScript.Double.Read
import SceneScript.Json.Cause

/-!
# Numbers as a JSON text spells them

A numeral keeps the digits of a number. Its value is an integer if it has neither point nor
exponent and fits into 64 bits. Otherwise it is a double, found in two steps: the leading digits
are taken as far as they fit into 64 bits, then the result is scaled by a power of ten in one
rounded operation. The value is therefore not always the nearest double.

* `Numeral`, `Numeral.value`: the digits and what they stand for.
* `Numeral.read`: reading the digits.
-/

namespace SceneScript.Json

/-- The digits of a number. -/
structure Numeral where
  negative : Bool
  whole : List Char
  fraction : Option (List Char)
  /-- Whether the exponent is negative, and its digits. -/
  exponent : Option (Bool × List Char)
deriving DecidableEq

/-- The largest number of 64 bits. -/
def maxWord : Nat := Nat.pow 2 64 - 1

/-- The largest exponent that is kept. -/
def maxExponent : Nat := Nat.pow 2 31 - 1

namespace Numeral

/-! ## Significant digits -/

/-- Takes further digits as long as the number fits into 64 bits; the digits that are left. -/
def takeDigits (significand : Nat) : List Char → Nat × List Char
  | [] => (significand, [])
  | c :: rest =>
    let next := 10 * significand + digitValue c
    if next ≤ maxWord then takeDigits next rest else (significand, c :: rest)

/-- The significant digits as a number, and the power of ten by which it is to be multiplied. -/
def significand (n : Numeral) : Nat × Int :=
  let (taken, left) := takeDigits 0 n.whole
  let fraction := n.fraction.getD []
  let (all, dropped) := takeDigits taken fraction
  (all, (left.length : Int) - ((fraction.length - dropped.length : Nat) : Int))

/-! ## Scaling -/

/-- The double nearest to a power of ten. -/
def powerOfTen (n : Nat) : Double := Double.ofNat (Nat.pow 10 n)

/-- The number multiplied by a power of ten. Powers beyond the largest one that is finite are
divided out step by step. -/
def scale (x : Double) (exponent : Int) : Except Cause Double :=
  if h : exponent < -308 then
    if x.pattern = 0 then .ok x
    else scale (x.div (powerOfTen 308)) (exponent + 308)
  else if exponent < 0 then .ok (x.div (powerOfTen (-exponent).toNat))
  else if exponent ≤ 308 then
    let y := x.mul (powerOfTen exponent.toNat)
    if y.isFinite then .ok y else .error .numberOutOfRange
  else if x.pattern = 0 then .ok x
  else .error .numberOutOfRange
termination_by (-exponent).toNat
decreasing_by omega

/-- The exponent kept within its bounds. -/
def clampExponent (e : Int) : Int :=
  max (-(maxExponent : Int) - 1) (min maxExponent e)

/-- The double that a numeral stands for, without its sign. -/
def magnitude (n : Numeral) : Except Cause Double :=
  let (significand, shift) := n.significand
  match n.exponent with
  | none => scale (Double.ofNat significand) shift
  | some (negative, digits) =>
    let written := digitsValue digits
    if maxExponent < written then
      if significand ≠ 0 ∧ !negative then .error .numberOutOfRange else .ok Double.zero
    else
      scale (Double.ofNat significand)
        (clampExponent (if negative then shift - written else shift + written))

/-- The number that a numeral stands for. -/
def value (n : Numeral) : Except Cause Number :=
  let whole := digitsValue n.whole
  if n.fraction.isNone ∧ n.exponent.isNone ∧ whole ≤ maxWord then
    if n.negative then
      if whole = 0 ∨ Nat.pow 2 63 < whole then .ok (.float (Double.ofNat whole).neg)
      else .ok (.int (-(whole : Int)))
    else .ok (.int whole)
  else
    n.magnitude.map fun x => .float (if n.negative then x.neg else x)

/-! ## Reading -/

/-- A numeral that is cut off by the end of the text, or by something else. -/
structure Broken where
  atEnd : Bool
deriving DecidableEq

/-- At least one digit, and what follows the digits. -/
def readDigits (text : List Char) : Except Broken (List Char × List Char) :=
  let digits := text.takeWhile Char.isDigit
  let rest := text.dropWhile Char.isDigit
  if digits.isEmpty then .error ⟨rest.isEmpty⟩ else .ok (digits, rest)

/-- The digits before the point: none may follow a leading zero. -/
def readWhole (text : List Char) : Except Broken (List Char × List Char) := do
  let (digits, rest) ← readDigits text
  if digits.head? = some '0' ∧ 1 < digits.length then .error ⟨false⟩ else .ok (digits, rest)

/-- A point and the digits behind it, if there is one. -/
def readFraction : List Char → Except Broken (Option (List Char) × List Char)
  | '.' :: rest => do
    let (digits, rest) ← readDigits rest
    .ok (some digits, rest)
  | rest => .ok (none, rest)

/-- An exponent, if there is one. -/
def readExponent : List Char → Except Broken (Option (Bool × List Char) × List Char)
  | c :: rest =>
    if c = 'e' ∨ c = 'E' then do
      let (negative, rest) := Double.readSign rest
      let (digits, rest) ← readDigits rest
      .ok (some (negative, digits), rest)
    else .ok (none, c :: rest)
  | [] => .ok (none, [])

/-- A numeral behind its sign, and what follows it. -/
def read (negative : Bool) (text : List Char) : Except Broken (Numeral × List Char) := do
  let (whole, rest) ← readWhole text
  let (fraction, rest) ← readFraction rest
  let (exponent, rest) ← readExponent rest
  .ok (⟨negative, whole, fraction, exponent⟩, rest)

end Numeral

end SceneScript.Json
