import SceneScript.Kinds.Standard
import SceneScript.Proofs.Nodes
import SceneScript.Proofs.Script.Numbers

/-!
# What a forest means

The syntax tree that blocks stand for, without any text: a value is an expression, and a chain is a
list of statements. A block that is not enabled means nothing, and neither does one that lacks a
part which it cannot do without. Names are handed out while the blocks are visited, in the order in
which the parts of a block are mentioned below.

* `Optional`: something that may be missing, with the names that it takes.
* `Sense`: the meaning of the blocks of a kind, given what their inputs mean.
* `valueOf`, `statementsOf`: the meaning of a block of a standard kind.
* `Tree.value`, `Tree.statements`: the meaning of a tree as a value and as a chain.
* `meaning`: the script that a forest stands for.
-/

namespace SceneScript.Script

/-- Something that may be missing, with the names that it takes. -/
abbrev Optional := OptionT Naming

/-- What the inputs of a block mean. -/
structure Inputs where
  value : String → Optional Expr
  body : String → Naming (List Stmt)

/-! ## Parts of blocks -/

/-- The value in an input, or a number if there is none. -/
def Inputs.valueOr (inputs : Inputs) (input : String) (default : Rat) : Optional Expr :=
  inputs.value input <|> pure (.number default)

/-- The value in an input, if there is one. -/
def Inputs.value? (inputs : Inputs) (input : String) : Optional (Option Expr) :=
  OptionT.lift (inputs.value input).run

/-- The text in a field. -/
def textIn (node : Node) (field : String) : Expr := .string (node.text .standard field)

/-- The number in a field. -/
def numberIn (node : Node) (field : String) : Expr :=
  .number (Literal.value (node.number .standard field))

/-- The variable in a field. -/
def variableIn (node : Node) (field : String) : Optional String :=
  OptionT.lift (node.identifier .standard field)

/-- The description of a thing: a list of one object with its id, its type and its properties. -/
def thing (node : Node) (type : String) (props : List (String × Expr)) : Expr :=
  .list [.object [("id", .string node.id), ("type", .string type), ("props", .object props)]]

/-- A call of an operation, waited for if it has to be. -/
def perform (runtime : String) (op : Operation) (args : List Expr) : Stmt :=
  .call op.isAsync runtime op.name args

/-! ## Kinds -/

/-- The meaning of the blocks of a kind, given the runtime namespace and what their inputs mean. -/
abbrev Sense (α : Type) := String → Node → Inputs → Optional α

namespace Sense

def lightbulb : Sense Expr := fun _ node inputs => do
  let brightness ← inputs.valueOr "BRIGHTNESS" 1
  return thing node "lightbulb" [("b", brightness), ("c", textIn node "COLOR")]

def spotlight : Sense Expr := fun _ node inputs => do
  let brightness ← inputs.valueOr "BRIGHTNESS" 1
  let angle ← inputs.valueOr "ANGLE" 45
  return thing node "spotlight" [("b", brightness), ("a", angle), ("c", textIn node "COLOR")]

def colourPicker : Sense Expr := fun _ node _ => return textIn node "COLOUR"

def colorMaterial : Sense Expr := fun _ node inputs => do
  let colour ← inputs.value "COLOR"
  return thing node "color" [("c", colour)]

def textureMaterial : Sense Expr := fun _ node _ =>
  return thing node "texture" [("t", textIn node "TEXTURE")]

/-- A solid is a thing of the type that its kind names. -/
def solid : Sense Expr := fun _ node inputs => do
  let material ← inputs.value "MATERIAL"
  let scale ← inputs.valueOr "SCALE" 1
  return thing node node.kind [("m", material), ("s", scale)]

/-- A shape from a model file may do without a material. -/
def customObject : Sense Expr := fun runtime node inputs => do
  let object := .construct runtime Operation.customObject.name
    [textIn node "MODEL", textIn node "NAME"]
  let material ← inputs.value? "MATERIAL"
  return thing node "custom" (("o", object) :: material.toList.map fun e => ("m", e))

def coords : Sense Expr := fun _ node _ =>
  return .list [numberIn node "X", numberIn node "Y", numberIn node "Z"]

def mathNumber : Sense Expr := fun _ node _ => return numberIn node "NUM"

def getter : Sense Expr := fun _ node _ => do return .name (← variableIn node "VAR")

def moveCamera : Sense (List Stmt) := fun runtime _ inputs => do
  let coords ← inputs.value "COORDS"
  return [perform runtime .moveCamera [coords]]

/-- A new variable for what is in an input, handed to an operation with further arguments. -/
def create (input : String) (op : Operation) (further : Node → Optional (List Expr)) :
    Sense (List Stmt) := fun runtime node inputs => do
  let value ← inputs.value input
  let coords ← inputs.value "COORDS"
  let name ← variableIn node "VAR"
  let further ← further node
  return [.assign name value, perform runtime op (.name name :: (further ++ [coords]))]

def createLight : Sense (List Stmt) := create "LIGHT" .createLight fun _ => return []

def createShape : Sense (List Stmt) := create "SHAPE" .createShape fun _ => return []

def createShapeAndAddTo : Sense (List Stmt) :=
  create "SHAPE" .createShapeAndAddTo fun node => do return [.name (← variableIn node "PARENT")]

def moveLightAlong : Sense (List Stmt) := fun runtime node inputs => do
  let coords ← inputs.value "COORDS"
  let name ← variableIn node "VAR"
  return [perform runtime .moveLightAlong [.name name, coords]]

def setAmbientLightIntensity : Sense (List Stmt) := fun runtime _ inputs => do
  let intensity ← inputs.valueOr "INTENSITY" 1
  return [perform runtime .setAmbientLightIntensity [intensity]]

/-- A number set on a variable; without a number it is one. -/
def setNumber (input : String) (op : Operation) : Sense (List Stmt) := fun runtime node inputs => do
  let name ← variableIn node "VAR"
  let number ← inputs.valueOr input 1
  return [perform runtime op [.name name, number]]

def moveShapeTowardsShape : Sense (List Stmt) := fun runtime node inputs => do
  let shape ← variableIn node "SHAPE1"
  let target ← variableIn node "SHAPE2"
  let steps ← inputs.valueOr "STEPS" 1
  return [perform runtime .moveShapeTowardsShape [.name shape, .name target, steps]]

def onClick : Sense (List Stmt) := fun runtime node inputs => do
  let name ← variableIn node "VAR"
  let body ← OptionT.lift (inputs.body "DO")
  return [perform runtime .onClick [.name name, .handler body]]

def setSkyColor : Sense (List Stmt) := fun runtime node _ =>
  return [perform runtime .setSkyColor [textIn node "COLOR"]]

/-- The kinds that have a value. -/
def values : List (String × Sense Expr) :=
  [("lightbulb", lightbulb), ("spotlight", spotlight), ("colour_picker", colourPicker),
    ("color_material", colorMaterial), ("texture_material", textureMaterial), ("box", solid),
    ("sphere", solid), ("cylinder", solid), ("cone", solid), ("custom_object", customObject),
    ("coords", coords), ("math_number", mathNumber), ("get_shape", getter), ("get_light", getter)]

/-- The kinds that are statements. -/
def statements : List (String × Sense (List Stmt)) :=
  [("move_camera", moveCamera), ("create_light", createLight), ("create_shape", createShape),
    ("create_shape_and_add_to", createShapeAndAddTo), ("move_light_along", moveLightAlong),
    ("set_ambient_light_intensity", setAmbientLightIntensity),
    ("set_light_intensity", setNumber "INTENSITY" .setLightIntensity),
    ("set_mass", setNumber "MASS" .setMass),
    ("move_shape_towards_shape", moveShapeTowardsShape), ("on_click", onClick),
    ("set_sky_color", setSkyColor)]

end Sense

/-- The value of a block of a standard kind. -/
def valueOf (runtime : String) (node : Node) (inputs : Inputs) : Optional Expr :=
  match Sense.values.lookup node.kind with
  | some sense => sense runtime node inputs
  | none => failure

/-- The statements of a block of a standard kind. -/
def statementsOf (runtime : String) (node : Node) (inputs : Inputs) : Optional (List Stmt) :=
  match Sense.statements.lookup node.kind with
  | some sense => sense runtime node inputs
  | none => failure

/-! ## Blocks -/

/-- The statements of a block; there are none if something is missing. -/
def blockStatements (runtime : String) (node : Node) (enabled : Bool) (inputs : Inputs) :
    Naming (List Stmt) := do
  if enabled then return (← (statementsOf runtime node inputs).run).getD [] else return []

/-! ## Trees -/

/-- The inputs of a block by name. What is in no list means nothing. -/
def inputsOf (values : List (String × Optional Expr))
    (bodies : List (String × Naming (List Stmt))) : Inputs where
  value input := (values.lookup input).getD failure
  body input := (bodies.lookup input).getD (pure [])

end SceneScript.Script

namespace SceneScript.Tree

open Script

variable (options : ScriptOptions)

mutual

/-- The value of a tree's block. -/
def value : Tree → Optional Expr
  | none => failure
  | block id kind enabled fields values statements _ =>
    if enabled then
      valueOf options.runtime ⟨id, kind, fields⟩ (inputsOf (inputValues kind values)
        (inputStatements statements))
    else failure

/-- The statements of a tree's chain, from the first block down. -/
def statements : Tree → Naming (List Stmt)
  | none => return []
  | block id kind enabled fields values statements next => do
    let here ← blockStatements options.runtime ⟨id, kind, fields⟩ enabled
      (inputsOf (inputValues kind values) (inputStatements statements))
    return here ++ (← next.statements)

/-- The values in the inputs of a kind; sockets may have to be checked. -/
def inputValues (kind : String) : List (String × Tree) → List (String × Optional Expr)
  | [] => []
  | (input, t) :: rest =>
    let refused := options.checkSockets && t.refusedBy .standard kind input
    (input, if refused then failure else t.value) :: inputValues kind rest

/-- The statements in the inputs of a block. -/
def inputStatements : List (String × Tree) → List (String × Naming (List Stmt))
  | [] => []
  | (input, t) :: rest => (input, t.statements) :: inputStatements rest

end

end SceneScript.Tree

namespace SceneScript.Script

end SceneScript.Script
