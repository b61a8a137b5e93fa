import Mathlib.Tactic.SplitIfs
import SceneScript.Compile

/-!
# Logging changes nothing

Linking and generating are defined once, for steps with and without a log. With a log they do what
they do without one, whatever is noted: a note is an event more, and neither the workspace nor the
names in use nor the result depend on the events so far.

* `Forgets`: a step with a log that does what a step without one does.
* `Linking.forgets_linkDocument`: linking with a log.
* `Program.forgets_topCode`: generating with a log.
* **`logged_eq`**: the workspace and the script of a run whose events are kept.
-/

namespace SceneScript

/-! ## Steps -/

section Steps

variable {σ α β : Type}

/-- Whatever is in the log, the first step has the result of the second one, and leads to the same
state. -/
def Forgets (x : StateT σ Logged α) (y : StateT σ Id α) : Prop :=
  ∀ s log, (StateT.run (x.run s) log).1 = y.run s

theorem forgets_pure (a : α) : Forgets (pure a : StateT σ Logged α) (pure a) := fun _ _ => rfl

theorem forgets_get : Forgets (get : StateT σ Logged σ) get := fun _ _ => rfl

theorem forgets_modify (f : σ → σ) : Forgets (modify f : StateT σ Logged PUnit) (modify f) :=
  fun _ _ => rfl

/-- A note is kept by one step and let go by the other one. -/
theorem forgets_note (events : List Event) :
    Forgets (StateT.lift (MonadLog.note events) : StateT σ Logged Unit)
      (StateT.lift (MonadLog.note events)) := fun _ _ => rfl

theorem Forgets.bind {x : StateT σ Logged α} {y : StateT σ Id α} {f : α → StateT σ Logged β}
    {g : α → StateT σ Id β} (h : Forgets x y) (hf : ∀ a, Forgets (f a) (g a)) :
    Forgets (x >>= f) (y >>= g) := by
  intro s log
  have hfirst := h s log
  rw [StateT.run_bind, StateT.run_bind, StateT.run_bind]
  show (StateT.run ((f (StateT.run (x.run s) log).1.1).run (StateT.run (x.run s) log).1.2)
    (StateT.run (x.run s) log).2).1 = (g (y.run s).1).run (y.run s).2
  rw [hfirst]
  exact hf _ _ _

theorem Forgets.forM {f : α → StateT σ Logged PUnit} {g : α → StateT σ Id PUnit}
    (h : ∀ a, Forgets (f a) (g a)) : ∀ l : List α, Forgets (l.forM f) (l.forM g)
  | [] => forgets_pure _
  | a :: l => (h a).bind fun _ => Forgets.forM h l

end Steps

/-! ## Linking -/

namespace Linking

theorem forgets_report (problem : Problem) : Forgets (report problem) (report problem) :=
  forgets_modify _

theorem forgets_edit (f : Workspace → Workspace) : Forgets (edit f) (edit f) := forgets_modify _

theorem forgets_takeId (id : String) : Forgets (takeId id) (takeId id) := by
  refine forgets_get.bind fun s => ?_
  split_ifs
  · exact (forgets_report _).bind fun _ => forgets_pure _
  · exact (forgets_modify _).bind fun _ => forgets_pure _

theorem forgets_claimId (id : Option String) : Forgets (claimId id) (claimId id) := by
  cases id with
  | none => exact (forgets_modify _).bind fun _ => forgets_get.bind fun _ => forgets_takeId _
  | some id => exact forgets_takeId id

theorem forgets_place (shape : Shape) (header : Header) (asStatement : Bool) (nesting : Nat) :
    Forgets (place shape header asStatement nesting) (place shape header asStatement nesting) := by
  refine (forgets_claimId _).bind fun id => ?_
  cases id with
  | none => exact forgets_pure _
  | some id =>
    dsimp only
    split_ifs
    · exact (forgets_report _).bind fun _ => forgets_pure _
    · exact (forgets_report _).bind fun _ => forgets_pure _
    · exact forgets_get.bind fun _ => (forgets_note _).bind fun _ =>
        (forgets_edit _).bind fun _ => forgets_pure _

theorem forgets_attach (parent previous : Option Ref) (r : Ref) :
    Forgets (attach parent previous r) (attach parent previous r) := by
  cases previous <;> exact forgets_edit _

variable (catalog : Catalog)

mutual

theorem forgets_linkChain : ∀ (chain : Chain) (nesting : Nat) (parent previous : Option Ref),
    Forgets (linkChain catalog nesting parent previous chain)
      (linkChain catalog nesting parent previous chain)
  | .none, _, _, _ => forgets_pure _
  | .unreadable _, _, _, _ => (forgets_report _).bind fun _ => forgets_pure _
  | .block header inputs next, nesting, parent, previous => by
    rw [linkChain, linkChain]
    cases catalog header.kind with
    | none => exact (forgets_report _).bind fun _ => forgets_pure _
    | some shape =>
      refine (forgets_place shape header true nesting).bind fun placed => ?_
      cases placed with
      | none => exact forgets_pure _
      | some placed =>
        exact (forgets_linkInputs inputs nesting shape _ _).bind fun _ =>
          (forgets_attach parent previous _).bind fun _ =>
          (forgets_linkChain next nesting _ _).bind fun _ => forgets_pure _

theorem forgets_linkValue : ∀ (chain : Chain) (nesting : Nat) (parent : Option Ref),
    Forgets (linkValue catalog nesting parent chain) (linkValue catalog nesting parent chain)
  | .none, _, _ => forgets_pure _
  | .unreadable _, _, _ => (forgets_report _).bind fun _ => forgets_pure _
  | .block header inputs next, nesting, parent => by
    rw [linkValue, linkValue]
    cases catalog header.kind with
    | none => exact (forgets_report _).bind fun _ => forgets_pure _
    | some shape =>
      dsimp only
      split_ifs
      · exact (forgets_report _).bind fun _ => forgets_pure _
      · refine (forgets_place shape header false nesting).bind fun placed => ?_
        cases placed with
        | none => exact forgets_pure _
        | some placed =>
          exact (forgets_linkInputs inputs nesting shape _ _).bind fun _ =>
            (forgets_attach parent none _).bind fun _ => forgets_pure _

theorem forgets_linkInputs : ∀ (inputs : List (String × Chain)) (nesting : Nat) (shape : Shape)
    (r : Ref) (id : String), Forgets (linkInputs catalog nesting shape r id inputs)
      (linkInputs catalog nesting shape r id inputs)
  | [], _, _, _, _ => forgets_pure _
  | (name, chain) :: rest, nesting, shape, r, id => by
    rw [linkInputs, linkInputs]
    have hrest := forgets_linkInputs rest nesting shape r id
    cases shape.input? name with
    | none => exact (forgets_report _).bind fun _ => hrest
    | some input =>
      cases input with
      | value accepts =>
        exact (forgets_linkValue chain (nesting + 1) (some r)).bind fun _ =>
          (forgets_edit _).bind fun _ => hrest
      | statements =>
        exact (forgets_linkChain chain (nesting + 1) (some r) none).bind fun _ =>
          (forgets_edit _).bind fun _ => hrest

end

theorem forgets_pushHead (head : Option Ref) : Forgets (pushHead head) (pushHead head) := by
  cases head with
  | none => exact forgets_pure _
  | some r => exact forgets_edit _

theorem forgets_linkTop (chain : Chain) :
    Forgets (linkTop catalog chain) (linkTop catalog chain) := by
  rw [linkTop, linkTop]
  split_ifs
  · exact (forgets_linkValue catalog chain 0 none).bind forgets_pushHead
  · exact (forgets_linkChain catalog chain 0 none none).bind forgets_pushHead

theorem forgets_declare (v : Declaration) : Forgets (declare v) (declare v) := by
  refine forgets_get.bind fun s => ?_
  cases SocketTag.ofName? v.type with
  | none => exact forgets_report _
  | some tag =>
    dsimp only
    split_ifs
    · exact forgets_report _
    · exact forgets_report _
    · exact forgets_edit _

/-- **Linking a document** is the same with a log. -/
theorem forgets_linkDocument (document : Document) :
    Forgets (linkDocument catalog document) (linkDocument catalog document) :=
  (Forgets.forM forgets_declare _).bind fun _ => Forgets.forM (forgets_linkTop catalog) _

end Linking

/-! ## Generating -/

namespace Program

section Steps

variable {α β : Type}

/-- A step of generating with a log that does what one without a log does. -/
def ForgetsGen (g : GenT Logged α) (g' : Gen α) : Prop := Forgets g.run g'.run

theorem forgetsGen_pure (a : α) : ForgetsGen (pure a) (pure a) := forgets_pure _

theorem forgetsGen_throw (e : BadGraph) : ForgetsGen (throw e : GenT Logged α) (throw e) :=
  forgets_pure _

theorem forgetsGen_get : ForgetsGen get get := fun _ _ => rfl

theorem forgetsGen_set (s : Scope) : ForgetsGen (set s) (set s) := fun _ _ => rfl

theorem forgetsGen_note (events : List Event) : ForgetsGen (note events) (note events) :=
  fun _ _ => rfl

theorem ForgetsGen.bind {g : GenT Logged α} {g' : Gen α} {f : α → GenT Logged β} {f' : α → Gen β}
    (h : ForgetsGen g g') (hf : ∀ a, ForgetsGen (f a) (f' a)) :
    ForgetsGen (g >>= f) (g' >>= f') := by
  rw [ForgetsGen, ExceptT.run_bind, ExceptT.run_bind]
  refine Forgets.bind h fun outcome => ?_
  cases outcome with
  | error e => exact forgets_pure _
  | ok a => exact hf a

end Steps

variable (p : Program)

theorem forgets_block (r : Ref) : ForgetsGen (p.block r) (p.block r) := by
  unfold block
  cases p.workspace.block? r with
  | none => exact forgetsGen_throw _
  | some b => exact forgetsGen_pure b

theorem forgets_resolve (key : String) : ForgetsGen (resolve key) (resolve key) :=
  forgetsGen_get.bind fun _ => (forgetsGen_note _).bind fun _ =>
    (forgetsGen_set _).bind fun _ => forgetsGen_pure _

theorem forgets_freshName (b : Block) (field stem : String) :
    ForgetsGen (freshName b field stem) (freshName b field stem) := by
  refine forgetsGen_get.bind fun s => ?_
  cases s.fresh.lookup (b.id, field) with
  | some name => exact forgetsGen_pure _
  | none => exact (forgetsGen_set _).bind fun _ => forgetsGen_pure _

theorem forgets_variableField (b : Block) (field : String) :
    ForgetsGen (p.variableField b field) (p.variableField b field) := by
  unfold variableField
  cases (b.fields.get? field).bind FieldValue.reference? with
  | some id => exact forgets_resolve id
  | none =>
    have hnone := (forgetsGen_note [.notVariableField b.id field]).bind fun _ => forgetsGen_pure ""
    cases p.fieldKind? b field with
    | none => exact hnone
    | some kind =>
      cases kind with
      | reference tag initial =>
        cases initial with
        | fresh stem => exact forgets_freshName b field stem
        | first fallback =>
          refine forgetsGen_get.bind fun s => ?_
          cases s.names.firstOfTag? tag with
          | some v => exact forgets_resolve v.id
          | none => exact forgetsGen_pure _
      | _ => exact hnone

section Rules

variable {inner : Ref → GenT Logged Fragment} {inner' : Ref → Gen Fragment}
  (hinner : ∀ r, ForgetsGen (inner r) (inner' r))

include hinner

theorem forgets_valueCode (b : Block) (input : String) (outer : Precedence) :
    ForgetsGen (p.valueCode inner b input outer) (p.valueCode inner' b input outer) := by
  unfold valueCode
  cases b.valueInput input with
  | none => exact forgetsGen_pure _
  | some r =>
    refine (p.forgets_block r).bind fun child => ?_
    split_ifs
    · exact (forgetsGen_note _).bind fun _ => forgetsGen_pure _
    · refine (hinner r).bind fun fragment => ?_
      cases fragment <;> exact forgetsGen_pure _

theorem forgets_blocksCode : ∀ refs : List Ref,
    ForgetsGen (blocksCode inner refs) (blocksCode inner' refs)
  | [] => forgetsGen_pure _
  | r :: rest =>
    (hinner r).bind fun _ => (forgets_blocksCode rest).bind fun _ => forgetsGen_pure _

theorem forgets_chainCode (head : Ref) :
    ForgetsGen (p.chainCode inner head) (p.chainCode inner' head) :=
  (forgets_blocksCode hinner _).bind fun _ => forgetsGen_pure _

theorem forgets_bodyCode (b : Block) (input : String) :
    ForgetsGen (p.bodyCode inner b input) (p.bodyCode inner' b input) := by
  unfold bodyCode
  cases b.statementInput input with
  | none => exact forgetsGen_pure _
  | some head => exact (p.forgets_chainCode hinner head).bind fun _ => forgetsGen_pure _

theorem forgets_interpret {α : Type} (b : Block) : ∀ plan : Plan α,
    ForgetsGen (p.interpret p.variableField inner b plan)
      (p.interpret p.variableField inner' b plan)
  | .done _ | .nothing => forgetsGen_pure _
  | .value input outer next => (p.forgets_valueCode hinner b input outer).bind fun code =>
      forgets_interpret b (next code)
  | .body input next => (p.forgets_bodyCode hinner b input).bind fun code =>
      forgets_interpret b (next code)
  | .identifier field next => (p.forgets_variableField b field).bind fun name =>
      forgets_interpret b (next name)
  | .text _ next | .number _ next => forgets_interpret b (next _)
  | .call _ next => (forgetsGen_note _).bind fun _ => forgets_interpret b (next _)
  | .owner next => forgets_interpret b (next _ _)

theorem forgets_applyRule (b : Block) (rule : Rule) : ForgetsGen
    (p.applyRule p.variableField inner b rule) (p.applyRule p.variableField inner' b rule) := by
  cases rule with
  | statement plan =>
    refine (p.forgets_interpret hinner b plan).bind fun code => ?_
    cases code <;> exact forgetsGen_pure _
  | value plan =>
    refine (p.forgets_interpret hinner b plan).bind fun result => ?_
    cases result <;> exact forgetsGen_pure _

theorem forgets_fragmentStep (r : Ref) : ForgetsGen
    (p.fragmentStep p.variableField inner r) (p.fragmentStep p.variableField inner' r) := by
  refine (p.forgets_block r).bind fun b => ?_
  split_ifs
  · exact forgetsGen_pure _
  · cases p.definition? b with
    | none => exact (forgetsGen_note _).bind fun _ => forgetsGen_pure _
    | some d => exact p.forgets_applyRule hinner b d.rule

theorem forgets_topCode : ∀ top : List Ref, ForgetsGen (p.topCode inner top) (p.topCode inner' top)
  | [] => forgetsGen_pure _
  | head :: rest => by
    refine (p.forgets_block head).bind fun b => ?_
    have hrest := forgets_topCode rest
    split_ifs
    · exact (p.forgets_chainCode hinner head).bind fun _ => hrest.bind fun _ => forgetsGen_pure _
    · exact hrest

end Rules

theorem forgets_fragmentWithin : ∀ (levels : Nat) (r : Ref),
    ForgetsGen (p.fragmentWithin levels r) (p.fragmentWithin levels r)
  | 0, _ => forgetsGen_throw _
  | levels + 1, r => p.forgets_fragmentStep (forgets_fragmentWithin levels) r

end Program

/-- **Logging changes nothing.** Linking a document ends in the same state, and generating a script
has the same outcome, whether or not the events on the way are kept. -/
theorem logged_eq (catalog : Catalog) (document : Document) (p : Program) :
    (StateT.run (StateT.run (Linking.linkDocument catalog document : LinkT Logged Unit) {}) []).1 =
        (Linking.linkDocument catalog document : Link Unit).run {} ∧
      p.scriptLogged.1 = p.script := by
  refine ⟨Linking.forgets_linkDocument catalog document {} [], ?_⟩
  have hcodes := p.forgets_topCode (p.forgets_fragmentWithin p.maxLevels) p.workspace.top
    p.initialScope []
  exact congrArg (fun run => run.1.map (String.intercalate "\n")) hcodes

end SceneScript
