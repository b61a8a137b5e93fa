import SceneScript.Dict
import SceneScript.Double.Layout

/-!
# JSON values

* `Json.Number`: an integer of 64 bits, or a double.
* `Json`: a value. The members of an object are kept in the order in which they are written.
-/

namespace SceneScript

/-- A number of a JSON text: an integer where the text has neither point nor exponent and the
value has 64 bits, otherwise a double. -/
inductive Json.Number where
  | int (value : Int)
  | float (value : Double)
deriving DecidableEq

/-- A JSON value. -/
inductive Json where
  | null
  | bool (value : Bool)
  | number (value : Json.Number)
  | string (text : String)
  | list (items : List Json)
  | object (members : List (String × Json))

namespace Json

instance : Inhabited Json := ⟨.null⟩

/-! ## Numbers -/

namespace Number

/-- Doubles are written with all digits from `10 ^ -5` to below `10 ^ 16`, otherwise with an
exponent; a whole number shows that it is a double. -/
def layout : Layout where
  tie := .toEven
  tail := ".0"
  positional := fun point => -5 < point && point ≤ 16

/-- The text of a number. -/
def text : Number → String
  | int value => toString value
  | float value => layout.write value

/-- The nearest double. -/
def toDouble : Number → Double
  | int value => Double.ofInt value
  | float value => value

end Number

/-! ## Building values -/

/-- A whole number. -/
def nat (n : Nat) : Json := .number (.int n)

/-- A double. There is no JSON number for one that is not finite. -/
def ofDouble (x : Double) : Json := if x.isFinite then .number (.float x) else .null

/-- A text, or nothing. -/
def optString : Option String → Json
  | none => .null
  | some text => .string text

/-- An object with its members in increasing order of their names. -/
def ofDict (members : Dict Json) : Json := .object members.entries

/-- An object with its members in increasing order of their names, whatever order they are given
in. -/
def sortedObject (members : List (String × Json)) : Json := .ofDict (.ofList members)

/-! ## Looking into values -/

/-- The last member of that name of an object. -/
def member? (name : String) : Json → Option Json
  | .object members => members.reverse.lookup name
  | _ => none

/-- The text of a string. -/
def string? : Json → Option String
  | .string text => some text
  | _ => none

/-- The items of a list. -/
def list? : Json → Option (List Json)
  | .list items => some items
  | _ => none

/-- The value of a truth value. -/
def bool? : Json → Option Bool
  | .bool value => some value
  | _ => none

/-- The value of a number. -/
def number? : Json → Option Number
  | .number value => some value
  | _ => none

/-- The value of a whole number that is not negative. -/
def nat? : Json → Option Nat
  | .number (.int (.ofNat n)) => some n
  | _ => none

/-- The members of an object. -/
def object? : Json → Option (List (String × Json))
  | .object members => some members
  | _ => none

/-- The value is `null`. -/
def isNull : Json → Bool
  | .null => true
  | _ => false

end Json

end SceneScript
