import SceneScript.Kinds.Standard

/-!
# Calls of operations

A rule calls the operation of its kind with as many arguments as the operation takes. A plan does
not know the answers to what it asks for, so this is said of a plan under all answers.

* `Plan.CallsWith`, `Rule.CallsWith`: all calls have the given number of arguments.
* **`Definition.callsProperly_of_mem_standard`**: the standard kinds call their operations properly.
-/

namespace SceneScript

namespace Plan

variable {α β : Type}

/-- Whatever the answers are, all calls of a plan have `arity` arguments; if there is no such
number, the plan makes no calls. -/
def CallsWith (arity : Option Nat) : Plan α → Prop
  | done _ | nothing => True
  | value _ _ next => ∀ code, (next code).CallsWith arity
  | body _ next | identifier _ next | text _ next | number _ next =>
    ∀ answer, (next answer).CallsWith arity
  | call args next => arity = some args.length ∧ ∀ code, (next code).CallsWith arity
  | owner next => ∀ id kind, (next id kind).CallsWith arity

section Steps

variable {arity : Option Nat} {input field type : String} {outer : Precedence}
  {args : List String} {props : List (String × String)}

@[simp] theorem callsWith_pure (a : α) : (pure a : Plan α).CallsWith arity := trivial

@[simp] theorem callsWith_require_bind {f : String → Plan β} :
    (require input outer >>= f).CallsWith arity ↔ ∀ code, (f code).CallsWith arity := by
  refine ⟨fun h code => h (some code), fun h code => ?_⟩
  cases code with
  | none => trivial
  | some code => exact h code

@[simp] theorem callsWith_valueOr_bind {default : String} {f : String → Plan β} :
    (valueOr input outer default >>= f).CallsWith arity ↔ ∀ code, (f code).CallsWith arity :=
  ⟨fun h code => h (some code), fun h code => h (code.getD default)⟩

@[simp] theorem callsWith_value?_bind {f : Option String → Plan β} :
    (value? input outer >>= f).CallsWith arity ↔ ∀ code, (f code).CallsWith arity := Iff.rfl

@[simp] theorem callsWith_bodyOf_bind {f : String → Plan β} :
    (bodyOf input >>= f).CallsWith arity ↔ ∀ code, (f code).CallsWith arity := Iff.rfl

@[simp] theorem callsWith_identifierIn_bind {f : String → Plan β} :
    (identifierIn field >>= f).CallsWith arity ↔ ∀ name, (f name).CallsWith arity := Iff.rfl

@[simp] theorem callsWith_literal_bind {f : String → Plan β} :
    (literal field >>= f).CallsWith arity ↔ ∀ s, (f (Text.quote s)).CallsWith arity := Iff.rfl

@[simp] theorem callsWith_numberIn_bind {f : String → Plan β} :
    (numberIn field >>= f).CallsWith arity ↔ ∀ n, (f n).CallsWith arity := Iff.rfl

@[simp] theorem callsWith_callWith_bind {f : String → Plan β} :
    (callWith args >>= f).CallsWith arity ↔
      arity = some args.length ∧ ∀ code, (f code).CallsWith arity := Iff.rfl

@[simp] theorem callsWith_perform_bind {f : String → Plan β} :
    (perform args >>= f).CallsWith arity ↔
      arity = some args.length ∧ ∀ code, (f (code ++ ";")).CallsWith arity := Iff.rfl

@[simp] theorem callsWith_perform :
    (perform args).CallsWith arity ↔ arity = some args.length := by
  simp [perform, CallsWith]

@[simp] theorem callsWith_owner {next : String → String → Plan α} :
    (owner next).CallsWith arity ↔ ∀ id kind, (next id kind).CallsWith arity := Iff.rfl

@[simp] theorem callsWith_describe : (describe type props).CallsWith arity := fun _ _ => trivial

end Steps

end Plan

/-- All calls of a rule have `arity` arguments. -/
def Rule.CallsWith (arity : Option Nat) : Rule → Prop
  | .statement plan => plan.CallsWith arity
  | .value plan => plan.CallsWith arity

namespace Definition

/-- The operation of a kind is called with as many arguments as it takes; without an operation,
nothing is called. -/
def CallsProperly (d : Definition) : Prop := d.rule.CallsWith (d.operation.map Operation.arity)

/-- **The standard kinds call their operations properly.** -/
theorem callsProperly_of_mem_standard : ∀ d ∈ Registry.standard.definitions, d.CallsProperly := by
  rw [Registry.definitions_standard]
  simp [Kinds.standard, CallsProperly, Rule.CallsWith, Operation.arity, Kinds.moveCamera,
    Kinds.createLight, Kinds.moveLightAlong, Kinds.setAmbientLightIntensity,
    Kinds.setLightIntensity, Kinds.lightbulb, Kinds.spotlight, Kinds.colourPicker,
    Kinds.colorMaterial, Kinds.textureMaterial, Kinds.setMass, Kinds.createShape,
    Kinds.createShapeAndAddTo, Kinds.moveShapeTowardsShape, Kinds.solid, Kinds.customObject,
    Kinds.onClick, Kinds.setSkyColor, Kinds.coords, Kinds.mathNumber, Kinds.getter]

end Definition

end SceneScript
