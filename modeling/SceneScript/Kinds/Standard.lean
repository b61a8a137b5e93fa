import SceneScript.Kinds.Expressions
import SceneScript.Kinds.Statements

/-!
# The standard registry

All kinds of blocks that the editor offers, grouped by subject.
-/

namespace SceneScript

open Kinds

/-- The kinds of blocks that the editor offers, in the order in which they are registered. -/
def Kinds.standard : List Definition :=
  [moveCamera,
    createLight, moveLightAlong, setAmbientLightIntensity, setLightIntensity, lightbulb,
    spotlight,
    colourPicker, colorMaterial, textureMaterial,
    setMass,
    createShape, createShapeAndAddTo, moveShapeTowardsShape, solid "box" "A box.",
    solid "sphere" "A sphere.", solid "cylinder" "A cylinder.", solid "cone" "A cone.",
    customObject,
    onClick,
    setSkyColor,
    coords, mathNumber,
    getter "get_shape" .shape "shape_1" "The shape stored in a variable.",
    getter "get_light" .light "light_1" "The light stored in a variable."]

theorem Kinds.nodup_standard : (Kinds.standard.map Definition.kind).Nodup := by decide +kernel

namespace Registry

/-- The registry of the kinds that the editor offers. -/
def standard : Registry := empty.registerAll Kinds.standard

theorem definitions_standard : standard.definitions = Kinds.standard :=
  definitions_registerAll Kinds.nodup_standard

theorem get?_standard {d : Definition} (h : d ∈ Kinds.standard) : standard.get? d.kind = some d :=
  get?_kind_of_mem (definitions_standard ▸ h)

/-- The rule of a kind is one for values exactly if the blocks of the kind have a value. -/
theorem isStatement_of_mem_standard : ∀ d ∈ standard.definitions,
    d.shape.isStatement = match d.rule with
      | .statement _ => true
      | .value _ => false := by
  rw [definitions_standard]
  decide

end Registry

end SceneScript
