import SceneScript.Double.Basic
import SceneScript.Socket

/-!
# Fields

A field is a place on a block where a literal is typed or a variable is picked.

* `FieldValue`: what a field holds.
* `FieldKind`, `FieldKind.default?`: what a field can hold, and what it holds at first.
-/

namespace SceneScript

/-- What a field holds. -/
inductive FieldValue where
  | text (value : String)
  | number (value : Double)
  | colour (value : String)
  | checkbox (value : Bool)
  /-- The value of the selected option. -/
  | dropdown (value : String)
  /-- A variable, by its id. -/
  | reference (id : String)
deriving DecidableEq, Inhabited

namespace FieldValue

/-- The text of a field that holds text. -/
def text? : FieldValue → Option String
  | text value | colour value | dropdown value => some value
  | _ => none

/-- The number of a field that holds one. -/
def number? : FieldValue → Option Double
  | number value => some value
  | _ => none

/-- The variable of a field that refers to one. -/
def reference? : FieldValue → Option String
  | reference id => some id
  | _ => none

end FieldValue

/-- Which variable an unset field stands for. -/
inductive VariableDefault where
  /-- The first declared variable of the field's tag, or this name if there is none. -/
  | first (fallback : String)
  /-- A new variable, named by the stem and the first free number. -/
  | fresh (stem : String)
deriving DecidableEq, Repr, Inhabited

/-- What a field can hold, with what it holds at first. -/
inductive FieldKind where
  | text (initial : String)
  | number (initial : Double)
  | colour (initial : String)
  | checkbox (initial : Bool)
  /-- Labels and values of the options; the first one is selected at first. -/
  | dropdown (options : List (String × String))
  /-- A variable of a tag. -/
  | reference (tag : SocketTag) (initial : VariableDefault)
deriving DecidableEq, Inhabited

/-- What a field of literals holds at first. -/
def FieldKind.default? : FieldKind → Option FieldValue
  | text initial => some (.text initial)
  | number initial => some (.number initial)
  | colour initial => some (.colour initial)
  | checkbox initial => some (.checkbox initial)
  | dropdown options => options.head?.map fun option => .dropdown option.2
  | reference _ _ => none

end SceneScript
