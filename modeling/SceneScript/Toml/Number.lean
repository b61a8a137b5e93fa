import SceneScript.Double.Read
import SceneScript.Json.Spelling
import SceneScript.Toml.Basic

/-!
# Numbers in TOML

Whole numbers have 64 bits with a sign and can be written in base 10, 16, 8 or 2; numbers with a
fraction or an exponent are rounded. Single underscores can stand between digits.

* `Toml.readNumber?`: a number, and what follows it.
-/

namespace SceneScript.Toml

/-- Digits with single underscores between them. -/
def isSpaced (isDigit : Char → Bool) : List Char → Bool
  | [] => false
  | [c] => isDigit c
  | c :: '_' :: rest => isDigit c && isSpaced isDigit rest
  | c :: rest => isDigit c && isSpaced isDigit rest

/-- Digits without the underscores between them, and what follows them. -/
def readDigits? (isDigit : Char → Bool) (text : List Char) : Option (List Char × List Char) :=
  let run := text.takeWhile fun c => isDigit c || c = '_'
  if isSpaced isDigit run then some (run.filter (· ≠ '_'), text.drop run.length) else none

/-- The digits of a whole number, and what follows them: none stand behind a leading zero. -/
def readWhole? (text : List Char) : Option (List Char × List Char) := do
  let (digits, rest) ← readDigits? Char.isDigit text
  if digits.head? = some '0' ∧ digits.length ≠ 1 then none else some (digits, rest)

/-- The base that a letter stands for. -/
def base? (c : Char) : Option Nat := [('x', 16), ('o', 8), ('b', 2)].lookup c

/-- The digits of a base. -/
def isDigitOf (base : Nat) (c : Char) : Bool :=
  match Json.Spelling.hexDigit? c with
  | some value => value < base
  | none => false

/-- A whole number from behind the letter of its base, and what follows it. -/
def readInBase? (base : Nat) (text : List Char) : Option (Toml × List Char) := do
  let (digits, rest) ← readDigits? (isDigitOf base) text
  let value := digits.foldl (fun n c => base * n + (Json.Spelling.hexDigit? c).getD 0) 0
  if value < Nat.pow 2 63 then some (.integer value, rest) else none

/-- What stands behind the point of a number, if there is one. -/
def readFraction? : List Char → Option (List Char × List Char)
  | '.' :: rest => readDigits? Char.isDigit rest
  | rest => some ([], rest)

/-- The exponent of a number, if there is one, and what follows it. -/
def readPower? : List Char → Option (Int × List Char)
  | [] => some (0, [])
  | c :: rest =>
    if c = 'e' ∨ c = 'E' then do
      let (negative, rest) := Double.readSign rest
      let (digits, rest) ← readDigits? Char.isDigit rest
      return (if negative then -(digitsValue digits : Int) else digitsValue digits, rest)
    else some (0, c :: rest)

/-- A number in base 10 without its sign, and what follows it. No number with a fraction or an
exponent can be so large that it is rounded to positive infinity. -/
def readUnsigned? (negative : Bool) (text : List Char) : Option (Toml × List Char) := do
  let (whole, behindWhole) ← readWhole? text
  let (fraction, behindFraction) ← readFraction? behindWhole
  let (exponent, rest) ← readPower? behindFraction
  if rest.length = behindWhole.length then
    let value := digitsValue whole
    if negative then
      if value ≤ Nat.pow 2 63 then some (.integer (-(value : Int)), rest) else none
    else if value < Nat.pow 2 63 then some (.integer value, rest)
    else none
  else
    let value :=
      Double.ofDecimal negative (digitsValue (whole ++ fraction)) (exponent - fraction.length)
    if value = Double.infinity false then none else some (.float value, rest)

/-- A number, and what follows it. -/
def readNumber? : List Char → Option (Toml × List Char)
  | '0' :: c :: rest =>
    match base? c with
    | some base => readInBase? base rest
    | none => readUnsigned? false ('0' :: c :: rest)
  | text =>
    let (negative, rest) := Double.readSign text
    match rest with
    | 'i' :: 'n' :: 'f' :: rest => some (.float (.infinity negative), rest)
    | 'n' :: 'a' :: 'n' :: rest => some (.float (if negative then Double.nan.neg else .nan), rest)
    | rest => readUnsigned? negative rest

end SceneScript.Toml
