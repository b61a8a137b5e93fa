import SceneScript.Kinds.Standard
import SceneScript.Proofs.Findings
import SceneScript.Proofs.Hygiene
import SceneScript.Proofs.Lockstep

/-!
# Values take no names

The identifiers of declared variables are settled before anything is generated, so asking for one of
them changes nothing. If all fields refer to declared variables, then only a field that creates a
variable can take a new name. No rule for values asks for such a field, and no rule for statements
does so before it is certain that the statement contributes something.

* `Scope.Steady`: the declared variables have the identifiers that they had at first.
* `Program.Gets`: how a field of variables gets its identifier.
* `Program.Quiet`: a step that changes no names and has the same outcome whatever names were taken.
* `Plan.Quiet`, `Plan.Loud`, `Plan.Traceless`: what a rule asks for, and when.
* **`Program.quiet_fragmentStep`**: the code of a value is quiet if that of its inputs is.
* **`Program.eq_of_isEmpty_fragmentStep`**: a statement that contributes nothing takes no names.
-/

namespace SceneScript

/-! ## Steady names -/

/-- The declared variables have the identifiers that they had at first. -/
structure Scope.Steady (p : Program) (s : Scope) : Prop where
  declared : s.names.declared = p.workspace.declared
  runtime : s.names.runtime = p.options.runtime
  bound : ∀ v ∈ p.workspace.declared,
    s.names.bound.lookup v.id = p.initialScope.names.bound.lookup v.id

namespace Program

/-- The identifier of a declared variable. -/
def identifierOf (p : Program) (v : Variable) : String := (p.initialScope.names.resolve v.id).1

theorem steady_initialScope (p : Program) : p.initialScope.Steady p where
  declared := Namespace.bindAll_declared p.workspace.declared
  runtime := Namespace.bindAll_runtime p.workspace.declared
  bound := fun _ _ => rfl

theorem lookup_initialScope (p : Program) {v : Variable} (hv : v ∈ p.workspace.declared) :
    p.initialScope.names.bound.lookup v.id = some (p.identifierOf v) := by
  have hsome : (p.initialScope.names.bound.lookup v.id).isSome = true :=
    Namespace.isSome_lookup_bindAll p.workspace.declared (.inr (List.mem_map_of_mem hv))
  obtain ⟨name, hname⟩ := Option.isSome_iff_exists.1 hsome
  rw [identifierOf, Namespace.resolve, hname]

end Program

namespace Scope.Steady

variable {p : Program} {s : Scope} (hs : s.Steady p)

include hs

theorem lookup {v : Variable} (hv : v ∈ p.workspace.declared) :
    s.names.bound.lookup v.id = some (p.identifierOf v) :=
  (hs.bound v hv).trans (p.lookup_initialScope hv)

theorem resolve_eq {v : Variable} (hv : v ∈ p.workspace.declared) :
    s.names.resolve v.id = (p.identifierOf v, s.names) := by
  rw [Namespace.resolve, hs.lookup hv]

/-- Whatever is asked of the names in use, they stay steady. -/
theorem answer (call : Namespace.Call) (fresh : List ((String × String) × String)) :
    Scope.Steady p ⟨(s.names.answer call).2, fresh⟩ where
  declared := (Namespace.answer_declared call).trans hs.declared
  runtime := (Namespace.answer_runtime call).trans hs.runtime
  bound := fun v hv => by
    rw [p.lookup_initialScope hv]
    exact Namespace.lookup_answer (hs.lookup hv) call

end Scope.Steady

/-! ## Quiet steps -/

namespace Program

variable {α β : Type} (p : Program)

/-- From all steady names in use, the step has the same outcome, and it changes no names. -/
def Quiet (g : Gen α) : Prop :=
  ∃ outcome, ∀ s : Scope, s.Steady p → g.run.run s = (outcome, s)

variable {p}

theorem quiet_pure (a : α) : p.Quiet (pure a) := ⟨.ok a, fun _ _ => rfl⟩

theorem quiet_throw (e : BadGraph) : p.Quiet (throw e : Gen α) := ⟨.error e, fun _ _ => rfl⟩

theorem Quiet.bind {g : Gen α} {f : α → Gen β} (hg : p.Quiet g) (hf : ∀ a, p.Quiet (f a)) :
    p.Quiet (g >>= f) := by
  obtain ⟨outcome, hg⟩ := hg
  cases outcome with
  | ok a =>
    obtain ⟨outcome, hf⟩ := hf a
    refine ⟨outcome, fun s hs => ?_⟩
    rw [run_bind_gen, hg s hs]
    exact hf s hs
  | error e =>
    refine ⟨.error e, fun s hs => ?_⟩
    rw [run_bind_gen, hg s hs]

theorem quiet_block (r : Ref) : p.Quiet (p.block r) := by
  unfold block
  cases p.workspace.block? r with
  | none => exact quiet_throw _
  | some b => exact quiet_pure b

end Program

/-! ## Fields of variables -/

/-- The fields of a block refer to declared variables only. -/
def Workspace.NamesDeclared (w : Workspace) (b : Block) : Prop :=
  ∀ field id, (b.fields.get? field).bind FieldValue.reference? = some id →
    ∃ v ∈ w.declared, v.id = id

/-- If no undeclared variable is found, there is none. -/
theorem Workspace.WellLinked.namesDeclared {registry : Registry} {w : Workspace}
    (hw : w.WellLinked registry.shape?) {findings : Diagnostics}
    (hcheck : w.check registry = .ok findings) (hfindings : ∀ d ∈ findings.warnings, d.code ≠ 301)
    {r : Ref} {b : Block} (hb : w.block? r = some b) : w.NamesDeclared b := by
  intro field id hid
  obtain ⟨value, hvalue, hreference⟩ := Option.bind_eq_some_iff.1 hid
  obtain ⟨shape, hkind, hshape⟩ := hw.has_shape r b hb
  cases value with
  | reference id' =>
    cases hreference
    obtain ⟨kind, hfield, hholds⟩ := hshape.fields field _ hvalue
    cases kind with
    | reference tag initial =>
      by_contra hundeclared
      have hnone : w.declared? id = none := List.find?_eq_none.2 fun v hv hid =>
        hundeclared ⟨v, hv, beq_iff_eq.1 hid⟩
      have hproblem : checkField? w shape b field (.reference id) =
          some (.undeclaredVariable b.id field id) := by
        simp only [checkField?, hfield, hnone]
      exact hfindings _ (hw.mem_warnings_of_checkField? hcheck hb hkind hvalue hproblem) rfl
    | _ => exact hholds.elim
  | _ => cases hreference

namespace Program

variable {p : Program}

theorem run_resolve (key : String) (s : Scope) : (resolve key : Gen String).run.run s =
    (.ok (s.names.resolve key).1, { s with names := (s.names.resolve key).2 }) := rfl

theorem quiet_resolve {v : Variable} (hv : v ∈ p.workspace.declared) : p.Quiet (resolve v.id) := by
  refine ⟨.ok (p.identifierOf v), fun s hs => ?_⟩
  rw [run_resolve, hs.resolve_eq hv]

/-- Only a field that creates a variable can take a new name. -/
theorem quiet_variableField {b : Block} (hb : p.workspace.NamesDeclared b) {field : String}
    (hkind : ∀ tag stem, p.fieldKind? b field ≠ some (.reference tag (.fresh stem))) :
    p.Quiet (p.variableField b field) := by
  unfold variableField
  cases hset : (b.fields.get? field).bind FieldValue.reference? with
  | some id =>
    obtain ⟨v, hv, rfl⟩ := hb field id hset
    exact quiet_resolve hv
  | none =>
    cases hfield : p.fieldKind? b field with
    | none => exact quiet_pure ""
    | some kind =>
      cases kind with
      | reference tag initial =>
        cases initial with
        | fresh stem => exact absurd hfield (hkind tag stem)
        | first fallback =>
          -- Which variable comes first depends on the declarations alone.
          have hnames : ∀ s : Scope, s.Steady p →
              s.names.firstOfTag? tag = p.workspace.declared.find? (·.tag == tag) := by
            intro s hs
            rw [Namespace.firstOfTag?, hs.declared]
          cases hfirst : p.workspace.declared.find? (·.tag == tag) with
          | some v =>
            obtain ⟨outcome, hresolve⟩ := quiet_resolve (List.mem_of_find?_eq_some hfirst)
            refine ⟨outcome, fun s hs => ?_⟩
            dsimp only
            rw [run_get_bind, hnames s hs, hfirst]
            exact hresolve s hs
          | none =>
            refine ⟨.ok fallback, fun s hs => ?_⟩
            dsimp only
            rw [run_get_bind, hnames s hs, hfirst]
            rfl
      | _ => exact quiet_pure ""

/-- How a field gets its identifier from the names in use, and what names are in use then. -/
inductive Gets (p : Program) (b : Block) (field : String) (s : Scope) : String → Scope → Prop
  /-- The field is set to a variable. -/
  | picked {id : String} (hset : (b.fields.get? field).bind FieldValue.reference? = some id) :
    Gets p b field s (s.names.resolve id).1 { s with names := (s.names.resolve id).2 }
  /-- The field stands for the first variable of its tag. -/
  | first {tag : SocketTag} {fallback : String} {v : Variable}
    (hkind : p.fieldKind? b field = some (.reference tag (.first fallback)))
    (hfirst : s.names.firstOfTag? tag = some v) :
    Gets p b field s (s.names.resolve v.id).1 { s with names := (s.names.resolve v.id).2 }
  /-- There is no variable of the tag. -/
  | fallback {tag : SocketTag} {fallback : String}
    (hunset : (b.fields.get? field).bind FieldValue.reference? = none)
    (hkind : p.fieldKind? b field = some (.reference tag (.first fallback)))
    (hfirst : s.names.firstOfTag? tag = none) : Gets p b field s fallback s
  /-- The field creates a variable, and has got a name for it before. -/
  | again {tag : SocketTag} {stem name : String}
    (hkind : p.fieldKind? b field = some (.reference tag (.fresh stem)))
    (hlookup : s.fresh.lookup (b.id, field) = some name) : Gets p b field s name s
  /-- The field creates a variable. -/
  | fresh {tag : SocketTag} {stem : String}
    (hkind : p.fieldKind? b field = some (.reference tag (.fresh stem)))
    (hlookup : s.fresh.lookup (b.id, field) = none) :
    Gets p b field s (s.names.claim stem).1
      ⟨(s.names.claim stem).2, ((b.id, field), (s.names.claim stem).1) :: s.fresh⟩
  /-- It is not a field of variables. -/
  | other (hkind : ∀ tag initial, p.fieldKind? b field ≠ some (.reference tag initial)) :
    Gets p b field s "" s

theorem exists_gets_variableField (b : Block) (field : String) (s : Scope) : ∃ name t,
    (p.variableField b field : Gen String).run.run s = (.ok name, t) ∧ p.Gets b field s name t := by
  unfold variableField
  cases hset : (b.fields.get? field).bind FieldValue.reference? with
  | some id => exact ⟨_, _, rfl, .picked hset⟩
  | none =>
    cases hkind : p.fieldKind? b field with
    | none => exact ⟨_, _, rfl, .other (by simp [hkind])⟩
    | some kind =>
      cases kind with
      | reference tag initial =>
        cases initial with
        | fresh stem =>
          dsimp only
          rw [freshName, run_get_bind]
          cases hlookup : s.fresh.lookup (b.id, field) with
          | some name => exact ⟨_, _, rfl, .again hkind hlookup⟩
          | none => exact ⟨_, _, rfl, .fresh hkind hlookup⟩
        | first fallback =>
          dsimp only
          rw [run_get_bind]
          cases hfirst : s.names.firstOfTag? tag with
          | some v => exact ⟨_, _, rfl, .first hkind hfirst⟩
          | none => exact ⟨_, _, rfl, .fallback hset hkind hfirst⟩
      | _ => exact ⟨_, _, rfl, .other (by simp [hkind])⟩

theorem gets_of_variableField {b : Block} {field name : String} {s t : Scope}
    (hrun : (p.variableField b field : Gen String).run.run s = (.ok name, t)) :
    p.Gets b field s name t := by
  obtain ⟨name', t', hrun', hgets⟩ := p.exists_gets_variableField b field s
  rw [hrun] at hrun'
  cases hrun'
  exact hgets

/-- Names in use stay steady, whatever a field gets. -/
theorem Gets.steady {b : Block} {field name : String} {s t : Scope} (h : p.Gets b field s name t)
    (hs : s.Steady p) : t.Steady p := by
  cases h with
  | picked | first => exact hs.answer (.resolve _) s.fresh
  | fallback | again | other => exact hs
  | fresh => exact hs.answer (.claim _) _

end Program

/-! ## Rules -/

namespace Plan

variable {α : Type}

/-- Whatever the answers are, the plan asks for no chain, and for identifiers only in fields that
pick a variable. -/
def Quiet (picks : String → Prop) : Plan α → Prop
  | done _ | nothing => True
  | value _ _ next => ∀ code, (next code).Quiet picks
  | body _ _ => False
  | identifier field next => picks field ∧ ∀ name, (next name).Quiet picks
  | text _ next | number _ next | call _ next => ∀ answer, (next answer).Quiet picks
  | owner next => ∀ id kind, (next id kind).Quiet picks

/-- Whatever the answers are, the plan ends with some code. -/
def Loud : Plan String → Prop
  | done code => code ≠ ""
  | nothing => False
  | value _ _ next => ∀ code, (next code).Loud
  | body _ next | identifier _ next | text _ next | number _ next | call _ next =>
    ∀ answer, (next answer).Loud
  | owner next => ∀ id kind, (next id kind).Loud

/-- The plan asks for a chain or an identifier only if it ends with some code then. -/
def Traceless : Plan String → Prop
  | done _ | nothing => True
  | value _ _ next => ∀ code, (next code).Traceless
  | body _ next | identifier _ next => ∀ answer, (next answer).Loud
  | text _ next | number _ next | call _ next => ∀ answer, (next answer).Traceless
  | owner next => ∀ id kind, (next id kind).Traceless

end Plan

namespace Definition

/-- Rules for values take no names, and rules for statements take none before it is certain that the
statement contributes something. -/
def Orderly (d : Definition) : Prop :=
  match d.rule with
  | .statement plan => plan.Traceless
  | .value plan => plan.Quiet fun field =>
    ∀ tag stem, d.shape.field? field ≠ some (.reference tag (.fresh stem))

/-- **The standard kinds are orderly.** -/
theorem orderly_of_mem_standard : ∀ d ∈ Registry.standard.definitions, d.Orderly := by
  rw [Registry.definitions_standard]
  simp [Kinds.standard, Orderly, Kinds.moveCamera, Kinds.createLight, Kinds.moveLightAlong,
    Kinds.setAmbientLightIntensity, Kinds.setLightIntensity, Kinds.lightbulb, Kinds.spotlight,
    Kinds.colourPicker, Kinds.colorMaterial, Kinds.textureMaterial, Kinds.setMass,
    Kinds.createShape, Kinds.createShapeAndAddTo, Kinds.moveShapeTowardsShape, Kinds.solid,
    Kinds.customObject, Kinds.onClick, Kinds.setSkyColor, Kinds.coords, Kinds.mathNumber,
    Kinds.getter, Plan.Quiet, Plan.Loud, Plan.Traceless, Plan.require, Plan.valueOr, Plan.value?,
    Plan.bodyOf, Plan.identifierIn, Plan.literal, Plan.numberIn, Plan.callWith, Plan.perform,
    Plan.describe, bind, pure, Plan.bind, Option.forall, Shape.field?, Shape.fields]

end Definition

namespace Program

variable {p : Program} {inner : Ref → Gen Fragment} {b : Block}

theorem quiet_valueCode (hinner : ∀ input s, b.valueInput input = some s → p.Quiet (inner s))
    (input : String) (outer : Precedence) : p.Quiet (p.valueCode inner b input outer) := by
  unfold valueCode
  cases hinput : b.valueInput input with
  | none => exact quiet_pure none
  | some s =>
    refine (quiet_block s).bind fun child => ?_
    split_ifs
    · exact quiet_pure none
    · refine (hinner input s hinput).bind fun fragment => ?_
      cases fragment with
      | value code precedence => exact quiet_pure _
      | statement code => exact quiet_pure none

section Interpret

variable (hinner : ∀ input s, b.valueInput input = some s → p.Quiet (inner s))

include hinner

theorem quiet_interpret {α : Type} {picks : String → Prop}
    (hpicks : ∀ field, picks field → p.Quiet (p.variableField b field)) : ∀ plan : Plan α,
      plan.Quiet picks → p.Quiet (p.interpret p.variableField inner b plan)
  | .done _, _ | .nothing, _ => quiet_pure _
  | .value input outer next, h =>
    (quiet_valueCode hinner input outer).bind fun code =>
      quiet_interpret hpicks (next code) (h code)
  | .body _ _, h => h.elim
  | .identifier field next, h =>
    (hpicks field h.1).bind fun name => quiet_interpret hpicks (next name) (h.2 name)
  | .text _ next, h | .number _ next, h | .call _ next, h =>
    quiet_interpret hpicks (next _) (h _)
  | .owner next, h => quiet_interpret hpicks (next _ _) (h _ _)

omit hinner in
theorem ne_empty_of_interpret {s t : Scope} {code : Option String} : ∀ plan : Plan String,
    plan.Loud → (p.interpret p.variableField inner b plan).run.run s = (.ok code, t) →
      code.getD "" ≠ ""
  | .done _, h, hrun => by
    cases hrun
    exact h
  | .nothing, h, _ => h.elim
  | .value _ _ next, h, hrun | .body _ next, h, hrun | .identifier _ next, h, hrun => by
    obtain ⟨answer, u, -, hrun⟩ := run_bind_eq_ok hrun
    exact ne_empty_of_interpret (next answer) (h answer) hrun
  | .text _ next, h, hrun | .number _ next, h, hrun | .call _ next, h, hrun =>
    ne_empty_of_interpret (next _) (h _) hrun
  | .owner next, h, hrun => ne_empty_of_interpret (next _ _) (h _ _) hrun

/-- A plan that ends without code has changed no names. -/
theorem eq_of_interpret {s t : Scope} (hs : s.Steady p) {code : Option String}
    (hcode : code.getD "" = "") : ∀ plan : Plan String, plan.Traceless →
      (p.interpret p.variableField inner b plan).run.run s = (.ok code, t) → t = s
  | .done _, _, hrun | .nothing, _, hrun => by
    cases hrun
    rfl
  | .value input outer next, h, hrun => by
    obtain ⟨outcome, hvalue⟩ := quiet_valueCode hinner input outer
    obtain ⟨answer, u, hanswer, hrun⟩ := run_bind_eq_ok hrun
    rw [hvalue s hs] at hanswer
    cases hanswer
    exact eq_of_interpret hs hcode (next answer) (h answer) hrun
  | .body _ next, h, hrun | .identifier _ next, h, hrun => by
    obtain ⟨answer, u, -, hrun⟩ := run_bind_eq_ok hrun
    exact absurd hcode (ne_empty_of_interpret (next answer) (h answer) hrun)
  | .text _ next, h, hrun | .number _ next, h, hrun | .call _ next, h, hrun =>
    eq_of_interpret hs hcode (next _) (h _) hrun
  | .owner next, h, hrun => eq_of_interpret hs hcode (next _ _) (h _ _) hrun

end Interpret

/-! ## Blocks -/

variable (p) in
/-- The code of all values is quiet. -/
def QuietValues (inner : Ref → Gen Fragment) : Prop :=
  ∀ r b, p.workspace.block? r = some b → b.isStatement = false → p.Quiet (inner r)

section Blocks

variable (hregistry : p.registry = .standard)
  (hw : p.workspace.WellLinked Registry.standard.shape?) {r : Ref}
  (hb : p.workspace.block? r = some b)

include hregistry hw hb

/-- The rule of a block is one for statements exactly if the block is a statement, and it is
orderly. -/
theorem rule_of_block? {d : Definition} (hd : p.definition? b = some d) : d.Orderly ∧
    b.isStatement = match d.rule with
      | .statement _ => true
      | .value _ => false := by
  rw [definition?, hregistry] at hd
  have hmem := Registry.mem_of_get? hd
  obtain ⟨shape, hkind, hshape⟩ := hw.has_shape r b hb
  rw [Registry.shape?, hd] at hkind
  cases hkind
  have hstatement : b.isStatement = d.shape.isStatement := by
    rw [Block.isStatement, hshape.output]
    rfl
  exact ⟨Definition.orderly_of_mem_standard d hmem,
    hstatement.trans (Registry.isStatement_of_mem_standard d hmem)⟩

variable (hinner : p.QuietValues inner)

include hinner

omit hregistry in
theorem quiet_of_valueInput (input : String) (s : Ref) (hs : b.valueInput input = some s) :
    p.Quiet (inner s) := by
  obtain ⟨c, hc, hvalue⟩ := hw.expression_in_value r b input s hb hs
  exact hinner s c hc hvalue

/-- **The code of a value is quiet**, if that of the values in its inputs is. -/
theorem quiet_fragmentStep (hdeclared : p.workspace.NamesDeclared b)
    (hvalue : b.isStatement = false) : p.Quiet (p.fragmentStep p.variableField inner r) := by
  have hblock : (p.block r : Gen Block) = pure b := by rw [block, hb]
  rw [fragmentStep, hblock, pure_bind]
  split_ifs
  · exact quiet_pure _
  · cases hd : p.definition? b with
    | none => exact quiet_pure _
    | some d =>
      obtain ⟨horderly, hrule⟩ := rule_of_block? hregistry hw hb hd
      unfold Definition.Orderly at horderly
      dsimp only
      cases hplan : d.rule with
      | statement plan =>
        rw [hvalue, hplan] at hrule
        cases hrule
      | value plan =>
        rw [hplan] at horderly
        refine (quiet_interpret (quiet_of_valueInput hw hb hinner) (fun field hfield => ?_) plan
          horderly).bind fun result => ?_
        · refine quiet_variableField hdeclared fun tag stem => ?_
          rw [fieldKind?, hd]
          exact hfield tag stem
        · cases result with
          | none => exact quiet_pure _
          | some result => exact quiet_pure _

/-- **A statement that contributes nothing takes no names.** -/
theorem eq_of_isEmpty_fragmentStep (hstatement : b.isStatement = true) {s t : Scope}
    (hs : s.Steady p) {f : Fragment}
    (hrun : (p.fragmentStep p.variableField inner r).run.run s = (.ok f, t))
    (hempty : f.isEmpty = true) : f = emptyFragment b ∧ t = s := by
  have hblock : (p.block r : Gen Block) = pure b := by rw [block, hb]
  have hnothing : emptyFragment b = .statement "" := by
    rw [emptyFragment, Option.isNone_iff_eq_none.1 hstatement]
  rw [fragmentStep, hblock, pure_bind] at hrun
  split_ifs at hrun
  · cases hrun
    exact ⟨rfl, rfl⟩
  · cases hd : p.definition? b with
    | none =>
      rw [hd] at hrun
      cases hrun
      exact ⟨rfl, rfl⟩
    | some d =>
      obtain ⟨horderly, hrule⟩ := rule_of_block? hregistry hw hb hd
      unfold Definition.Orderly at horderly
      rw [hd] at hrun
      dsimp only at hrun
      cases hplan : d.rule with
      | value plan =>
        rw [hstatement, hplan] at hrule
        cases hrule
      | statement plan =>
        rw [hplan] at horderly hrun
        obtain ⟨code, u, hinterpret, hresult⟩ := run_bind_eq_ok hrun
        have hcode : f = .statement (code.getD "") ∧ t = u := by
          cases code <;> cases hresult <;> exact ⟨rfl, rfl⟩
        obtain ⟨rfl, rfl⟩ := hcode
        have hcode : code.getD "" = "" := String.isEmpty_iff.1 hempty
        rw [hnothing, hcode]
        exact ⟨rfl, eq_of_interpret (quiet_of_valueInput hw hb hinner) hs hcode plan horderly
          hinterpret⟩

end Blocks

end Program

end SceneScript
