import SceneScript.Double.Read

/-!
# Dates and times in TOML

A date is written `1979-05-27` and a time of day `07:32:00`, with digits of a second behind a point
if there are any. A date can be followed by a time, and that by an offset from universal time.

* `Toml.daysInMonth`: how many days a month has.
* `Toml.readMoment?`: what follows a date, a time of day or both.
-/

namespace SceneScript.Toml

/-- The year has a day more than others. -/
def isLeapYear (year : Nat) : Bool := year % 4 == 0 && (year % 100 != 0 || year % 400 == 0)

/-- How many days a month has. -/
def daysInMonth (year month : Nat) : Nat :=
  if month = 2 then if isLeapYear year then 29 else 28
  else if month = 4 ∨ month = 6 ∨ month = 9 ∨ month = 11 then 30
  else 31

/-- A number of exactly `width` digits, and what follows it. -/
def readFixed? (width : Nat) (text : List Char) : Option (Nat × List Char) :=
  let digits := text.take width
  if digits.length = width ∧ digits.all Char.isDigit then
    some (digitsValue digits, text.drop width)
  else none

/-- What follows a character. -/
def readChar? (c : Char) : List Char → Option (List Char)
  | [] => none
  | d :: rest => if d = c then some rest else none

/-- What follows a date. -/
def readDate? (text : List Char) : Option (List Char) := do
  let (year, rest) ← readFixed? 4 text
  let (month, rest) ← readFixed? 2 (← readChar? '-' rest)
  let (day, rest) ← readFixed? 2 (← readChar? '-' rest)
  if 1 ≤ month ∧ month ≤ 12 ∧ 1 ≤ day ∧ day ≤ daysInMonth year month then some rest else none

/-- Drops the digits of a second behind the point, if there are any. -/
def dropFraction : List Char → List Char
  | '.' :: c :: rest => if c.isDigit then rest.dropWhile Char.isDigit else '.' :: c :: rest
  | text => text

/-- What follows hours and minutes. -/
def readClock? (text : List Char) : Option (List Char) := do
  let (hour, rest) ← readFixed? 2 text
  let (minute, rest) ← readFixed? 2 (← readChar? ':' rest)
  if hour ≤ 23 ∧ minute ≤ 59 then some rest else none

/-- What follows a time of day. A minute can have a leap second. -/
def readTime? (text : List Char) : Option (List Char) := do
  let (second, rest) ← readFixed? 2 (← readChar? ':' (← readClock? text))
  if second ≤ 60 then some (dropFraction rest) else none

/-- Drops an offset from universal time, if there is one. -/
def dropOffset : List Char → List Char
  | [] => []
  | c :: rest =>
    if c = 'Z' ∨ c = 'z' then rest
    else if c = '+' ∨ c = '-' then (readClock? rest).getD (c :: rest)
    else c :: rest

/-- Drops a time with its offset behind a date, if there is one. -/
def dropTime : List Char → List Char
  | [] => []
  | c :: rest =>
    if c = 'T' ∨ c = 't' ∨ c = ' ' then
      match readTime? rest with
      | some behind => dropOffset behind
      | none => c :: rest
    else c :: rest

/-- What follows a date, a time of day or both. -/
def readMoment? (text : List Char) : Option (List Char) :=
  match readDate? text with
  | some rest => some (dropTime rest)
  | none => readTime? text

end SceneScript.Toml
