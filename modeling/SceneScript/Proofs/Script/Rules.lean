import SceneScript.Proofs.Faithful
import SceneScript.Proofs.Script.Agreement

/-!
# Rules of the standard kinds

* `RuleAgrees`: carrying out the rule of a kind gives the code of what a block of the kind means.
* **`agrees_standard`**: this holds of every standard kind.
-/

namespace SceneScript.Script

open Plan

/-- Carrying out a rule gives the code of what a block means. -/
def RuleAgrees (runtime : String) (node : Node) (inputs : Inputs) (parts : Parts) : Rule → Prop
  | .statement plan => plan.Agrees parts (Writes runtime) (statementsOf runtime node inputs)
  | .value plan =>
    plan.Agrees parts (CodesValue runtime) (valueOf runtime node inputs)

section Rules

variable {runtime : String} (hruntime : FreeName runtime) {node : Node} {inputs : Inputs}
  {parts : Parts} (h : Answers runtime node inputs parts)

/-- The rule of a kind that has a value gives the code of the meaning of the kind. -/
theorem ruleAgrees_value {d : Definition} (hd : Registry.standard.get? node.kind = some d)
    {plan : Plan (String × Precedence)} (hrule : d.rule = .value plan) {sense : Sense Expr}
    (hsense : Sense.values.lookup d.kind = some sense)
    (hplan : plan.Agrees parts (CodesValue runtime) (sense runtime node inputs)) :
    RuleAgrees runtime node inputs parts d.rule := by
  rwa [hrule, RuleAgrees, valueOf, ← Registry.kind_of_get? hd, hsense]

/-- The rule of a kind of statements gives the code of the meaning of the kind. -/
theorem ruleAgrees_statement {d : Definition} (hd : Registry.standard.get? node.kind = some d)
    {plan : Plan String} (hrule : d.rule = .statement plan) {sense : Sense (List Stmt)}
    (hsense : Sense.statements.lookup d.kind = some sense)
    (hplan : plan.Agrees parts (Writes runtime) (sense runtime node inputs)) :
    RuleAgrees runtime node inputs parts d.rule := by
  rwa [hrule, RuleAgrees, statementsOf, ← Registry.kind_of_get? hd, hsense]

theorem fieldKind?_of_get? {d : Definition} (hd : Registry.standard.get? node.kind = some d)
    (field : String) : node.fieldKind? .standard field = d.shape.field? field := by
  rw [Node.fieldKind?, Registry.shape?, hd]
  rfl

theorem freeName_shape : FreeName "shape_1" := ⟨by decide, by decide⟩

theorem freeName_light : FreeName "light_1" := ⟨by decide, by decide⟩

/-! ## Values -/

theorem codes_one : Codes runtime "1" (.number 1) :=
  ⟨by simp [Inline], reads_nat false 1, trivial⟩

theorem codes_fortyFive : Codes runtime "45" (.number 45) :=
  ⟨by simp [Inline], reads_nat false 45, trivial⟩

include h

theorem agrees_lightbulb (hd : Registry.standard.get? node.kind = some Kinds.lightbulb) :
    RuleAgrees runtime node inputs parts Kinds.lightbulb.rule := by
  refine ruleAgrees_value hd rfl rfl ?_
  refine (h.agrees_valueOr "BRIGHTNESS" .none codes_one).bind fun brightness e hbrightness => ?_
  refine h.agrees_literal "COLOR" (h.agrees_describe "lightbulb" ?_ (by simp))
  exact .cons (codes_prop (by decide) hbrightness)
    (.cons (codes_prop (by decide) (codes_quote _)) .nil)

theorem agrees_spotlight (hd : Registry.standard.get? node.kind = some Kinds.spotlight) :
    RuleAgrees runtime node inputs parts Kinds.spotlight.rule := by
  refine ruleAgrees_value hd rfl rfl ?_
  refine (h.agrees_valueOr "BRIGHTNESS" .none codes_one).bind fun brightness e hbrightness => ?_
  refine (h.agrees_valueOr "ANGLE" .none codes_fortyFive).bind fun angle a hangle => ?_
  refine h.agrees_literal "COLOR" (h.agrees_describe "spotlight" ?_ (by simp))
  exact .cons (codes_prop (by decide) hbrightness) (.cons (codes_prop (by decide) hangle)
    (.cons (codes_prop (by decide) (codes_quote _)) .nil))

theorem agrees_colourPicker (hd : Registry.standard.get? node.kind = some Kinds.colourPicker) :
    RuleAgrees runtime node inputs parts Kinds.colourPicker.rule := by
  refine ruleAgrees_value hd rfl rfl ?_
  exact h.agrees_literal "COLOUR" (agrees_done ⟨rfl, codes_quote _⟩)

theorem agrees_colorMaterial (hd : Registry.standard.get? node.kind = some Kinds.colorMaterial) :
    RuleAgrees runtime node inputs parts Kinds.colorMaterial.rule := by
  refine ruleAgrees_value hd rfl rfl ?_
  refine (h.agrees_require "COLOR" .none).bind fun colour e hcolour => ?_
  exact h.agrees_describe "color" (.cons (codes_prop (by decide) hcolour) .nil) (by simp)

theorem agrees_textureMaterial
    (hd : Registry.standard.get? node.kind = some Kinds.textureMaterial) :
    RuleAgrees runtime node inputs parts Kinds.textureMaterial.rule := by
  refine ruleAgrees_value hd rfl rfl ?_
  refine h.agrees_literal "TEXTURE" (h.agrees_describe "texture" ?_ (by simp))
  exact .cons (codes_prop (by decide) (codes_quote _)) .nil

/-- The four solids are described by their kinds. -/
theorem agrees_solid {kind tooltip : String}
    (hkinds : kind = "box" ∨ kind = "sphere" ∨ kind = "cylinder" ∨ kind = "cone")
    (hd : Registry.standard.get? node.kind = some (Kinds.solid kind tooltip)) :
    RuleAgrees runtime node inputs parts (Kinds.solid kind tooltip).rule := by
  have hsense : Sense.values.lookup kind = some Sense.solid := by
    rcases hkinds with rfl | rfl | rfl | rfl <;> rfl
  refine ruleAgrees_value hd rfl hsense ?_
  refine (h.agrees_require "MATERIAL" .none).bind fun material e hmaterial => ?_
  refine (h.agrees_valueOr "SCALE" .none codes_one).bind fun scale s hscale => ?_
  refine optionalAgrees_pure ⟨rfl, ?_⟩
  rw [h.id, h.kind]
  exact codes_thing (.cons (codes_prop (by decide) hmaterial)
    (.cons (codes_prop (by decide) hscale) .nil))
    (by simp) node node.kind

theorem agrees_coords (hd : Registry.standard.get? node.kind = some Kinds.coords) :
    RuleAgrees runtime node inputs parts Kinds.coords.rule := by
  refine ruleAgrees_value hd rfl rfl ?_
  refine h.agrees_numberIn "X" (h.agrees_numberIn "Y" (h.agrees_numberIn "Z" ?_))
  refine agrees_done ⟨rfl, ?_⟩
  have hlist : List.Forall₂ (Codes runtime) _ _ :=
    .cons (codes_number (node.number .standard "X"))
      (.cons (codes_number (node.number .standard "Y"))
      (.cons (codes_number (node.number .standard "Z")) .nil))
  simpa [String.append_assoc, numberIn] using codes_list hlist

theorem agrees_mathNumber (hd : Registry.standard.get? node.kind = some Kinds.mathNumber) :
    RuleAgrees runtime node inputs parts Kinds.mathNumber.rule := by
  refine ruleAgrees_value hd rfl rfl ?_
  exact h.agrees_numberIn "NUM" (agrees_done ⟨rfl, codes_number _⟩)

theorem agrees_getter {kind fallback tooltip : String} {tag : SocketTag}
    (hkinds : kind = "get_shape" ∨ kind = "get_light") (hfallback : FreeName fallback)
    (hd : Registry.standard.get? node.kind = some (Kinds.getter kind tag fallback tooltip)) :
    RuleAgrees runtime node inputs parts (Kinds.getter kind tag fallback tooltip).rule := by
  have hsense : Sense.values.lookup kind = some Sense.getter := by
    rcases hkinds with rfl | rfl <;> rfl
  refine ruleAgrees_value hd rfl hsense ?_
  refine (h.agrees_identifierIn (fieldKind?_of_get? hd "VAR") hfallback).bind fun name x hname => ?_
  obtain ⟨rfl, hfree⟩ := hname
  exact agrees_done ⟨rfl, codes_name hfree⟩

include hruntime

theorem agrees_customObject (hd : Registry.standard.get? node.kind = some Kinds.customObject) :
    RuleAgrees runtime node inputs parts Kinds.customObject.rule := by
  have hargs : List.Forall₂ (Codes runtime) _ _ :=
    .cons (codes_quote (node.text .standard "MODEL"))
      (.cons (codes_quote (node.text .standard "NAME")) .nil)
  have hobject : Codes runtime _ _ :=
    codes_construct hruntime.1 hargs (rfl : Operation.customObject.isConstructor = true) rfl
  refine ruleAgrees_value hd rfl rfl ?_
  refine h.agrees_literal "MODEL" (h.agrees_literal "NAME" (h.agrees_call hd rfl _ ?_))
  refine (h.agrees_value? "MATERIAL" .none).bind fun material m hmaterial => ?_
  refine h.agrees_describe "custom" (.cons (codes_prop (by decide) hobject) ?_) (by simp)
  cases hmaterial with
  | some hmaterial => exact .cons (codes_prop (by decide) hmaterial) .nil
  | none => exact .nil

/-! ## Statements -/

theorem agrees_moveCamera (hd : Registry.standard.get? node.kind = some Kinds.moveCamera) :
    RuleAgrees runtime node inputs parts Kinds.moveCamera.rule := by
  refine ruleAgrees_statement hd rfl rfl ?_
  refine (h.agrees_require "COORDS" .none).bind fun coords e hcoords => ?_
  exact h.agrees_perform hd rfl hruntime rfl (.cons hcoords .nil) rfl

theorem agrees_moveLightAlong (hd : Registry.standard.get? node.kind = some Kinds.moveLightAlong) :
    RuleAgrees runtime node inputs parts Kinds.moveLightAlong.rule := by
  have hvariable := h.agrees_identifierIn (fieldKind?_of_get? hd "VAR") freeName_light
  refine ruleAgrees_statement hd rfl rfl ?_
  refine (h.agrees_require "COORDS" .none).bind fun coords e hcoords => ?_
  refine hvariable.bind fun name x hname => ?_
  obtain ⟨rfl, hfree⟩ := hname
  exact h.agrees_perform hd rfl hruntime rfl (.cons (codes_name hfree) (.cons hcoords .nil)) rfl

theorem agrees_setAmbientLightIntensity
    (hd : Registry.standard.get? node.kind = some Kinds.setAmbientLightIntensity) :
    RuleAgrees runtime node inputs parts Kinds.setAmbientLightIntensity.rule := by
  refine ruleAgrees_statement hd rfl rfl ?_
  refine (h.agrees_valueOr "INTENSITY" .none codes_one).bind fun intensity e hintensity => ?_
  exact h.agrees_perform hd rfl hruntime rfl (.cons hintensity .nil) rfl

/-- A number is set on a variable. -/
theorem agrees_setNumber {d : Definition} (hd : Registry.standard.get? node.kind = some d)
    {op : Operation} (hop : d.operation = some op) (hstatement : op.isConstructor = false)
    (harity : 2 = op.arity) {tag : SocketTag} {fallback : String}
    (hfield : d.shape.field? "VAR" = some (.reference tag (.first fallback)))
    (hfallback : FreeName fallback) (input : String) :
    Plan.Agrees parts (Writes runtime)
      (do
        let name ← Plan.identifierIn "VAR"
        let number ← Plan.valueOr input .none "1"
        Plan.perform [name, number])
      (Sense.setNumber input op runtime node inputs) := by
  have hkind := (fieldKind?_of_get? hd "VAR").trans hfield
  refine (h.agrees_identifierIn hkind hfallback).bind fun name x hname => ?_
  refine (h.agrees_valueOr input .none codes_one).bind fun number e hnumber => ?_
  obtain ⟨rfl, hfree⟩ := hname
  exact h.agrees_perform hd hop hruntime hstatement (.cons (codes_name hfree) (.cons hnumber .nil))
    harity

theorem agrees_setLightIntensity
    (hd : Registry.standard.get? node.kind = some Kinds.setLightIntensity) :
    RuleAgrees runtime node inputs parts Kinds.setLightIntensity.rule := by
  refine ruleAgrees_statement hd rfl rfl ?_
  exact agrees_setNumber hruntime h hd rfl rfl rfl rfl freeName_light "INTENSITY"

theorem agrees_setMass (hd : Registry.standard.get? node.kind = some Kinds.setMass) :
    RuleAgrees runtime node inputs parts Kinds.setMass.rule := by
  refine ruleAgrees_statement hd rfl rfl ?_
  exact agrees_setNumber hruntime h hd rfl rfl rfl rfl freeName_shape "MASS"

theorem agrees_moveShapeTowardsShape
    (hd : Registry.standard.get? node.kind = some Kinds.moveShapeTowardsShape) :
    RuleAgrees runtime node inputs parts Kinds.moveShapeTowardsShape.rule := by
  have hshape := h.agrees_identifierIn (fieldKind?_of_get? hd "SHAPE1") freeName_shape
  have htarget := h.agrees_identifierIn (fieldKind?_of_get? hd "SHAPE2") ⟨by decide, by decide⟩
  refine ruleAgrees_statement hd rfl rfl ?_
  refine hshape.bind fun shape x hname => ?_
  refine htarget.bind fun target y hname' => ?_
  refine (h.agrees_valueOr "STEPS" .none codes_one).bind fun steps e hsteps => ?_
  obtain ⟨rfl, hfree⟩ := hname
  obtain ⟨rfl, hfree'⟩ := hname'
  exact h.agrees_perform hd rfl hruntime rfl
    (.cons (codes_name hfree) (.cons (codes_name hfree') (.cons hsteps .nil))) rfl

theorem agrees_setSkyColor (hd : Registry.standard.get? node.kind = some Kinds.setSkyColor) :
    RuleAgrees runtime node inputs parts Kinds.setSkyColor.rule := by
  refine ruleAgrees_statement hd rfl rfl ?_
  refine h.agrees_literal "COLOR" ?_
  exact h.agrees_perform hd rfl hruntime rfl (.cons (codes_quote _) .nil) rfl

theorem agrees_onClick (hd : Registry.standard.get? node.kind = some Kinds.onClick) :
    RuleAgrees runtime node inputs parts Kinds.onClick.rule := by
  have hvariable := h.agrees_identifierIn (fieldKind?_of_get? hd "VAR") freeName_shape
  refine ruleAgrees_statement hd rfl rfl ?_
  refine hvariable.bind fun name x hname => ?_
  refine (h.agrees_bodyOf "DO").bind fun code body hbody => ?_
  obtain ⟨rfl, hfree⟩ := hname
  refine optionalAgrees_pure ?_
  rw [h.call _ _ hd rfl]
  exact writes_handler hruntime.1 hfree rfl rfl hbody

/-- Something is created for a new variable, and handed to an operation with further arguments. -/
theorem agrees_create {d : Definition} (hd : Registry.standard.get? node.kind = some d)
    {op : Operation} (hop : d.operation = some op) (hstatement : op.isConstructor = false)
    {tag : SocketTag} {stem : String}
    (hfield : d.shape.field? "VAR" = some (.reference tag (.fresh stem)))
    (hstem : isIdentifier stem = true) (input : String) (further : Plan (List String))
    {meant : Node → Optional (List Expr)}
    (hfurther : further.Agrees parts
      (fun codes es => List.Forall₂ (Codes runtime) codes es ∧ es.length + 2 = op.arity)
      (meant node)) :
    Plan.Agrees parts (Writes runtime)
      (do
        let value ← Plan.require input .assignment
        let coords ← Plan.require "COORDS" .none
        let name ← Plan.identifierIn "VAR"
        let more ← further
        let call ← Plan.perform (name :: (more ++ [coords]))
        return name ++ " = " ++ value ++ "; " ++ call)
      (Sense.create input op meant runtime node inputs) := by
  have hkind := (fieldKind?_of_get? hd "VAR").trans hfield
  refine (h.agrees_require input .assignment).bind fun value v hvalue => ?_
  refine (h.agrees_require "COORDS" .none).bind fun coords c hcoords => ?_
  refine (h.agrees_identifierIn hkind hstem).bind fun name x hname => ?_
  refine hfurther.bind fun more es hmore => ?_
  obtain ⟨rfl, hfree⟩ := hname
  have hargs :
      List.Forall₂ (Codes runtime) (name :: (more ++ [coords])) (.name name :: (es ++ [c])) :=
    .cons (codes_name hfree) (List.rel_append hmore.1 (.cons hcoords .nil))
  have harity : (Expr.name name :: (es ++ [c])).length = op.arity := by
    rw [← hmore.2, List.length_cons, List.length_append, List.length_singleton]
  refine optionalAgrees_pure ?_
  rw [h.call d op hd hop]
  exact writes_create hruntime.1 hstatement hargs harity hfree hvalue

theorem agrees_createLight (hd : Registry.standard.get? node.kind = some Kinds.createLight) :
    RuleAgrees runtime node inputs parts Kinds.createLight.rule := by
  refine ruleAgrees_statement hd rfl rfl ?_
  exact agrees_create hruntime h hd rfl rfl rfl (by decide) "LIGHT" (pure [])
    (agrees_done ⟨.nil, rfl⟩)

theorem agrees_createShape (hd : Registry.standard.get? node.kind = some Kinds.createShape) :
    RuleAgrees runtime node inputs parts Kinds.createShape.rule := by
  refine ruleAgrees_statement hd rfl rfl ?_
  exact agrees_create hruntime h hd rfl rfl rfl (by decide) "SHAPE" (pure [])
    (agrees_done ⟨.nil, rfl⟩)

theorem agrees_createShapeAndAddTo
    (hd : Registry.standard.get? node.kind = some Kinds.createShapeAndAddTo) :
    RuleAgrees runtime node inputs parts Kinds.createShapeAndAddTo.rule := by
  have hparent := h.agrees_identifierIn (fieldKind?_of_get? hd "PARENT") freeName_shape
  refine ruleAgrees_statement hd rfl rfl ?_
  refine agrees_create hruntime h hd rfl rfl rfl (by decide) "SHAPE"
    (do return [← Plan.identifierIn "PARENT"]) (hparent.bind fun parent x hname => ?_)
  obtain ⟨rfl, hfree⟩ := hname
  exact agrees_done ⟨.cons (codes_name hfree) .nil, rfl⟩

/-- **The rules of all standard kinds give the code of what blocks mean.** -/
theorem agrees_standard {d : Definition} (hd : Registry.standard.get? node.kind = some d) :
    RuleAgrees runtime node inputs parts d.rule := by
  have hmem : d ∈ Registry.standard.definitions := Registry.mem_of_get? hd
  simp only [Registry.definitions_standard, Kinds.standard, List.mem_cons, List.not_mem_nil,
    or_false] at hmem
  rcases hmem with rfl | rfl | rfl | rfl | rfl | rfl | rfl | rfl | rfl | rfl | rfl | rfl | rfl |
    rfl | rfl | rfl | rfl | rfl | rfl | rfl | rfl | rfl | rfl | rfl | rfl
  · exact agrees_moveCamera hruntime h hd
  · exact agrees_createLight hruntime h hd
  · exact agrees_moveLightAlong hruntime h hd
  · exact agrees_setAmbientLightIntensity hruntime h hd
  · exact agrees_setLightIntensity hruntime h hd
  · exact agrees_lightbulb h hd
  · exact agrees_spotlight h hd
  · exact agrees_colourPicker h hd
  · exact agrees_colorMaterial h hd
  · exact agrees_textureMaterial h hd
  · exact agrees_setMass hruntime h hd
  · exact agrees_createShape hruntime h hd
  · exact agrees_createShapeAndAddTo hruntime h hd
  · exact agrees_moveShapeTowardsShape hruntime h hd
  · exact agrees_solid h (.inl rfl) hd
  · exact agrees_solid h (.inr (.inl rfl)) hd
  · exact agrees_solid h (.inr (.inr (.inl rfl))) hd
  · exact agrees_solid h (.inr (.inr (.inr rfl))) hd
  · exact agrees_customObject hruntime h hd
  · exact agrees_onClick hruntime h hd
  · exact agrees_setSkyColor hruntime h hd
  · exact agrees_coords h hd
  · exact agrees_mathNumber h hd
  · exact agrees_getter h (.inl rfl) freeName_shape hd
  · exact agrees_getter h (.inr rfl) freeName_light hd

end Rules

end SceneScript.Script
