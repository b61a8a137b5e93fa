/-!
# Operations of the scene

A script acts on the scene through a fixed set of operations on one object, the runtime namespace.

* `Operation`: the operations, each with a name, a number of arguments and a manner of calling.
* `Operation.call`: the code of a call.
-/

namespace SceneScript

/-- An operation of the scene. -/
inductive Operation where
  | moveCamera
  | onClick
  | createLight
  | moveLightAlong
  | setAmbientLightIntensity
  | setLightIntensity
  | setMass
  | createShapeAndAddTo
  | createShape
  | moveShapeTowardsShape
  | setSkyColor
  | customObject
deriving DecidableEq, Repr, Inhabited

namespace Operation

/-- Every operation. -/
def all : List Operation :=
  [moveCamera, onClick, createLight, moveLightAlong, setAmbientLightIntensity, setLightIntensity,
    setMass, createShapeAndAddTo, createShape, moveShapeTowardsShape, setSkyColor, customObject]

/-- The name of an operation on the runtime namespace. -/
def name : Operation → String
  | moveCamera => "moveCamera"
  | onClick => "onClick"
  | createLight => "createLight"
  | moveLightAlong => "moveLightAlong"
  | setAmbientLightIntensity => "setAmbientLightIntensity"
  | setLightIntensity => "setLightIntensity"
  | setMass => "setMass"
  | createShapeAndAddTo => "createShapeAndAddTo"
  | createShape => "createShape"
  | moveShapeTowardsShape => "moveShapeTowardsShape"
  | setSkyColor => "setSkyColor"
  | customObject => "customObject"

/-- The operation of a name. -/
def ofName? (name : String) : Option Operation :=
  all.find? (·.name == name)

/-- The name with a capital letter, under which listings show an operation. -/
def title (op : Operation) : String := op.name.capitalize

/-- How many arguments an operation takes. -/
def arity : Operation → Nat
  | moveCamera | setAmbientLightIntensity | setSkyColor => 1
  | onClick | createLight | moveLightAlong | setLightIntensity | setMass | createShape
  | customObject => 2
  | createShapeAndAddTo | moveShapeTowardsShape => 3

/-- What follows a call has to wait for it. -/
def isAsync : Operation → Bool
  | createLight | createShapeAndAddTo | createShape => true
  | _ => false

/-- The operation builds an object. -/
def isConstructor : Operation → Bool
  | customObject => true
  | _ => false

/-- The word before a call. -/
def keyword (op : Operation) : String :=
  if op.isConstructor then "new " else if op.isAsync then "await " else ""

/-- The code of a call on a runtime namespace. -/
def call (runtime : String) (op : Operation) (args : List String) : String :=
  op.keyword ++ runtime ++ "." ++ op.name ++ "(" ++ String.intercalate ", " args ++ ")"

end Operation

end SceneScript
