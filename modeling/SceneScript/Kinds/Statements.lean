import SceneScript.Registry

/-!
# Kinds of statements

The blocks that act on the scene. Inputs that a block cannot do without are asked for before its
variables, so a block that contributes nothing takes no name.
-/

namespace SceneScript.Kinds

/-! ## Camera -/

/-- Moves the camera. -/
def moveCamera : Definition where
  shape :=
    { kind := "move_camera"
      message := "move camera to %1"
      args := [.input "COORDS" (.value (.only [.coords]))]
      output := none
      category := .camera
      tooltip := "Move the camera to the given coordinates."
      inputsInline := true }
  rule := .statement do
    let coords ← Plan.require "COORDS" .none
    Plan.perform [coords]
  operation := some .moveCamera

/-! ## Lights -/

/-- Creates a light. -/
def createLight : Definition where
  shape :=
    { kind := "create_light"
      message := "create light as %1 %2 at %3"
      args :=
        [.field "VAR" (.reference .light (.fresh "light")),
          .input "LIGHT" (.value (.only [.light])),
          .input "COORDS" (.value (.only [.coords]))]
      output := none
      category := .lighting
      tooltip := "Create a light and place it in the scene."
      inputsInline := false }
  rule := .statement do
    let light ← Plan.require "LIGHT" .assignment
    let coords ← Plan.require "COORDS" .none
    let name ← Plan.identifierIn "VAR"
    let call ← Plan.perform [name, coords]
    return name ++ " = " ++ light ++ "; " ++ call
  operation := some .createLight

/-- Moves a light by an offset. -/
def moveLightAlong : Definition where
  shape :=
    { kind := "move_light_along"
      message := "move light %1 along %2"
      args :=
        [.field "VAR" (.reference .light (.first "light_1")),
          .input "COORDS" (.value (.only [.coords]))]
      output := none
      category := .lighting
      tooltip := "Move a light by the given offset."
      inputsInline := true }
  rule := .statement do
    let coords ← Plan.require "COORDS" .none
    let name ← Plan.identifierIn "VAR"
    Plan.perform [name, coords]
  operation := some .moveLightAlong

/-- Sets the intensity of the ambient light. -/
def setAmbientLightIntensity : Definition where
  shape :=
    { kind := "set_ambient_light_intensity"
      message := "set ambient light intensity to %1"
      args := [.input "INTENSITY" (.value (.only [.number]))]
      output := none
      category := .lighting
      tooltip := "Set the intensity of the scene's ambient light."
      inputsInline := true }
  rule := .statement do
    let intensity ← Plan.valueOr "INTENSITY" .none "1"
    Plan.perform [intensity]
  operation := some .setAmbientLightIntensity

/-- Sets the intensity of a light. -/
def setLightIntensity : Definition where
  shape :=
    { kind := "set_light_intensity"
      message := "set intensity of %1 to %2"
      args :=
        [.field "VAR" (.reference .light (.first "light_1")),
          .input "INTENSITY" (.value (.only [.number]))]
      output := none
      category := .lighting
      tooltip := "Set the intensity of a light."
      inputsInline := true }
  rule := .statement do
    let name ← Plan.identifierIn "VAR"
    let intensity ← Plan.valueOr "INTENSITY" .none "1"
    Plan.perform [name, intensity]
  operation := some .setLightIntensity

/-! ## Shapes -/

/-- Sets the mass of a shape. -/
def setMass : Definition where
  shape :=
    { kind := "set_mass"
      message := "set mass of %1 to %2"
      args :=
        [.field "VAR" (.reference .shape (.first "shape_1")),
          .input "MASS" (.value (.only [.number]))]
      output := none
      category := .physics
      tooltip := "Set the mass of a shape. Zero makes it static."
      inputsInline := true }
  rule := .statement do
    let name ← Plan.identifierIn "VAR"
    let mass ← Plan.valueOr "MASS" .none "1"
    Plan.perform [name, mass]
  operation := some .setMass

/-- Creates a shape. -/
def createShape : Definition where
  shape :=
    { kind := "create_shape"
      message := "create shape as %1 %2 at %3"
      args :=
        [.field "VAR" (.reference .shape (.fresh "shape")),
          .input "SHAPE" (.value (.only [.shape])),
          .input "COORDS" (.value (.only [.coords]))]
      output := none
      category := .shapes
      tooltip := "Create a shape and place it in the scene."
      inputsInline := false }
  rule := .statement do
    let shape ← Plan.require "SHAPE" .assignment
    let coords ← Plan.require "COORDS" .none
    let name ← Plan.identifierIn "VAR"
    let call ← Plan.perform [name, coords]
    return name ++ " = " ++ shape ++ "; " ++ call
  operation := some .createShape

/-- Creates a shape as a part of another one. -/
def createShapeAndAddTo : Definition where
  shape :=
    { kind := "create_shape_and_add_to"
      message := "create shape as %1 %2 add to %3 at %4"
      args :=
        [.field "VAR" (.reference .shape (.fresh "shape")),
          .input "SHAPE" (.value (.only [.shape])),
          .field "PARENT" (.reference .shape (.first "shape_1")),
          .input "COORDS" (.value (.only [.coords]))]
      output := none
      category := .shapes
      tooltip := "Create a shape as a child of another shape."
      inputsInline := false }
  rule := .statement do
    let shape ← Plan.require "SHAPE" .assignment
    let coords ← Plan.require "COORDS" .none
    let name ← Plan.identifierIn "VAR"
    let parent ← Plan.identifierIn "PARENT"
    let call ← Plan.perform [name, parent, coords]
    return name ++ " = " ++ shape ++ "; " ++ call
  operation := some .createShapeAndAddTo

/-- Moves a shape towards another one. -/
def moveShapeTowardsShape : Definition where
  shape :=
    { kind := "move_shape_towards_shape"
      message := "move %1 towards %2 by %3 steps"
      args :=
        [.field "SHAPE1" (.reference .shape (.first "shape_1")),
          .field "SHAPE2" (.reference .shape (.first "shape_2")),
          .input "STEPS" (.value (.only [.number]))]
      output := none
      category := .shapes
      tooltip := "Move one shape towards another."
      inputsInline := true }
  rule := .statement do
    let shape ← Plan.identifierIn "SHAPE1"
    let target ← Plan.identifierIn "SHAPE2"
    let steps ← Plan.valueOr "STEPS" .none "1"
    Plan.perform [shape, target, steps]
  operation := some .moveShapeTowardsShape

/-! ## Events -/

/-- The handler of an event; what waits may wait inside it. -/
def handler (body : String) : String :=
  if body.isEmpty then "async () => \x7b\n\x7d" else "async () => \x7b\n" ++ body ++ "\n\x7d"

/-- Runs a chain whenever a shape is clicked. -/
def onClick : Definition where
  shape :=
    { kind := "on_click"
      message := "when %1 is clicked %2"
      args :=
        [.field "VAR" (.reference .shape (.first "shape_1")),
          .input "DO" .statements]
      output := none
      category := .events
      tooltip := "Run the enclosed blocks every time the shape is clicked."
      inputsInline := false }
  rule := .statement do
    let name ← Plan.identifierIn "VAR"
    let body ← Plan.bodyOf "DO"
    Plan.perform [name, handler body]
  operation := some .onClick

/-! ## Scene -/

/-- Sets the colour of the sky. -/
def setSkyColor : Definition where
  shape :=
    { kind := "set_sky_color"
      message := "set sky colour to %1"
      args := [.field "COLOR" (.colour "#87ceeb")]
      output := none
      category := .scene
      tooltip := "Set the background colour of the scene."
      inputsInline := true }
  rule := .statement do
    let colour ← Plan.literal "COLOR"
    Plan.perform [colour]
  operation := some .setSkyColor

end SceneScript.Kinds
