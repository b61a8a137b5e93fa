import SceneScript.Field

/-!
# Shapes of blocks

What the editor draws for a kind of block: a message with numbered places, and a field or an input
at each place.

* `Category`: the drawers of the toolbox, with their colours.
* `Arg`, `Input`: what stands at a place of the message.
* `Shape`: the description of a kind, with look-up of fields and inputs by name.
-/

namespace SceneScript

/-- A drawer of the toolbox. -/
inductive Category where
  | camera
  | lighting
  | materials
  | physics
  | shapes
  | events
  | scene
  | values
  | vars
deriving DecidableEq, Repr, Inhabited

namespace Category

/-- Every category, in the order of the toolbox. -/
def all : List Category :=
  [camera, lighting, materials, physics, shapes, events, scene, values, vars]

/-- The spelling of a category. -/
def name : Category → String
  | camera => "Camera"
  | lighting => "Lighting"
  | materials => "Materials"
  | physics => "Physics"
  | shapes => "Shapes"
  | events => "Events"
  | scene => "Scene"
  | values => "Values"
  | vars => "Variables"

/-- The category of a spelling. -/
def ofName? (name : String) : Option Category :=
  all.find? (·.name == name)

/-- The hue of the blocks of a category, in degrees. -/
def hue : Category → Nat
  | camera => 210
  | lighting => 60
  | materials => 20
  | physics => 0
  | shapes => 160
  | events => 290
  | scene => 190
  | values => 230
  | vars => 330

end Category

/-- What an input takes. -/
inductive Input where
  /-- A block with a value of an accepted tag. -/
  | value (accepts : TagSet)
  /-- A chain of statements. -/
  | statements
deriving DecidableEq, Inhabited

/-- What stands at a numbered place of a message. -/
inductive Arg where
  | field (name : String) (kind : FieldKind)
  | input (name : String) (takes : Input)
deriving DecidableEq, Inhabited

/-- The editor's description of a kind of block. -/
structure Shape where
  kind : String
  /-- The text on the block; `%1`, `%2` and so on are the places of the arguments. -/
  message : String
  args : List Arg
  /-- The tag of the value; a block without one is a statement. -/
  output : Option SocketTag
  category : Category
  tooltip : String
  inputsInline : Bool
deriving DecidableEq, Inhabited

namespace Shape

/-- The block is a statement. -/
def isStatement (s : Shape) : Bool := s.output.isNone

/-- The fields in the order of the message. -/
def fields (s : Shape) : List (String × FieldKind) :=
  s.args.filterMap fun
    | .field name kind => some (name, kind)
    | .input _ _ => none

/-- The inputs in the order of the message. -/
def inputs (s : Shape) : List (String × Input) :=
  s.args.filterMap fun
    | .input name takes => some (name, takes)
    | .field _ _ => none

/-- The first field of a name. -/
def field? (s : Shape) (name : String) : Option FieldKind := s.fields.lookup name

/-- The first input of a name. -/
def input? (s : Shape) (name : String) : Option Input := s.inputs.lookup name

/-- The tags that the input of a name accepts, if it takes values. -/
def accepted? (s : Shape) (name : String) : Option TagSet :=
  match s.input? name with
  | some (.value accepts) => some accepts
  | _ => none

end Shape

end SceneScript
