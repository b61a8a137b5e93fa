import SceneScript.Registry

/-!
# Kinds of expressions

The blocks that produce a value: descriptions of things, literals and variables.
-/

namespace SceneScript.Kinds

/-! ## Lights -/

/-- A light that shines to all sides. -/
def lightbulb : Definition where
  shape :=
    { kind := "lightbulb"
      message := "lightbulb brightness %1 colour %2"
      args :=
        [.input "BRIGHTNESS" (.value (.only [.number])), .field "COLOR" (.colour "#ffffff")]
      output := some .light
      category := .lighting
      tooltip := "A point light."
      inputsInline := true }
  rule := .value do
    let brightness ← Plan.valueOr "BRIGHTNESS" .none "1"
    let colour ← Plan.literal "COLOR"
    Plan.describe "lightbulb" [("b", brightness), ("c", colour)]

/-- A light that shines in a cone. -/
def spotlight : Definition where
  shape :=
    { kind := "spotlight"
      message := "spotlight brightness %1 angle %2 colour %3"
      args :=
        [.input "BRIGHTNESS" (.value (.only [.number])),
          .input "ANGLE" (.value (.only [.number])),
          .field "COLOR" (.colour "#ffffff")]
      output := some .light
      category := .lighting
      tooltip := "A cone-shaped light."
      inputsInline := true }
  rule := .value do
    let brightness ← Plan.valueOr "BRIGHTNESS" .none "1"
    let angle ← Plan.valueOr "ANGLE" .none "45"
    let colour ← Plan.literal "COLOR"
    Plan.describe "spotlight" [("b", brightness), ("a", angle), ("c", colour)]

/-! ## Materials -/

/-- A colour. -/
def colourPicker : Definition where
  shape :=
    { kind := "colour_picker"
      message := "%1"
      args := [.field "COLOUR" (.colour "#ff0000")]
      output := some .colour
      category := .materials
      tooltip := "A colour."
      inputsInline := true }
  rule := .value do
    let colour ← Plan.literal "COLOUR"
    return (colour, .atomic)

/-- A material of one colour. -/
def colorMaterial : Definition where
  shape :=
    { kind := "color_material"
      message := "colour material %1"
      args := [.input "COLOR" (.value (.only [.colour]))]
      output := some .material
      category := .materials
      tooltip := "A plain coloured material."
      inputsInline := true }
  rule := .value do
    let colour ← Plan.require "COLOR" .none
    Plan.describe "color" [("c", colour)]

/-- A material with a texture. -/
def textureMaterial : Definition where
  shape :=
    { kind := "texture_material"
      message := "texture %1"
      args :=
        [.field "TEXTURE" (.dropdown
          [("wood", "wood"), ("brick", "brick"), ("grass", "grass"), ("marble", "marble"),
            ("metal", "metal")])]
      output := some .material
      category := .materials
      tooltip := "A textured material."
      inputsInline := true }
  rule := .value do
    let texture ← Plan.literal "TEXTURE"
    Plan.describe "texture" [("t", texture)]

/-! ## Shapes -/

/-- A simple solid; its type is its kind. -/
def solid (kind tooltip : String) : Definition where
  shape :=
    { kind
      message := kind ++ " with material %1 scale %2"
      args :=
        [.input "MATERIAL" (.value (.only [.material])), .input "SCALE" (.value (.only [.number]))]
      output := some .shape
      category := .shapes
      tooltip
      inputsInline := true }
  rule := .value do
    let material ← Plan.require "MATERIAL" .none
    let scale ← Plan.valueOr "SCALE" .none "1"
    Plan.owner fun id kind =>
      return (Literal.descriptor id kind [("m", material), ("s", scale)], .atomic)

/-- A shape from a model file. -/
def customObject : Definition where
  shape :=
    { kind := "custom_object"
      message := "custom object %1 model %2 material %3"
      args :=
        [.field "NAME" (.text "object"),
          .field "MODEL" (.text "model.glb"),
          .input "MATERIAL" (.value (.only [.material]))]
      output := some .shape
      category := .shapes
      tooltip := "A shape loaded from a model file."
      inputsInline := true }
  rule := .value do
    let model ← Plan.literal "MODEL"
    let name ← Plan.literal "NAME"
    let object ← Plan.callWith [model, name]
    let material ← Plan.value? "MATERIAL" .none
    Plan.describe "custom" (("o", object) :: material.toList.map fun code => ("m", code))
  operation := some .customObject

/-! ## Literals and variables -/

/-- A point. -/
def coords : Definition where
  shape :=
    { kind := "coords"
      message := "x %1 y %2 z %3"
      args :=
        [.field "X" (.number .zero), .field "Y" (.number .zero), .field "Z" (.number .zero)]
      output := some .coords
      category := .values
      tooltip := "A point in the scene."
      inputsInline := true }
  rule := .value do
    let x ← Plan.numberIn "X"
    let y ← Plan.numberIn "Y"
    let z ← Plan.numberIn "Z"
    return ("[" ++ x ++ "," ++ y ++ "," ++ z ++ "]", .atomic)

/-- A number. -/
def mathNumber : Definition where
  shape :=
    { kind := "math_number"
      message := "%1"
      args := [.field "NUM" (.number .zero)]
      output := some .number
      category := .values
      tooltip := "A number."
      inputsInline := true }
  rule := .value do
    let n ← Plan.numberIn "NUM"
    return (n, .atomic)

/-- The value of a variable. -/
def getter (kind : String) (tag : SocketTag) (fallback tooltip : String) : Definition where
  shape :=
    { kind
      message := "%1"
      args := [.field "VAR" (.reference tag (.first fallback))]
      output := some tag
      category := .vars
      tooltip
      inputsInline := true }
  rule := .value do
    let name ← Plan.identifierIn "VAR"
    return (name, .atomic)

end SceneScript.Kinds
