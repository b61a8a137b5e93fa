import SceneScript.Proofs.ForestScript
import SceneScript.Proofs.Script.Code

/-!
# Steps that agree

Writing the code of a block and finding its meaning both hand out names. They agree if they take the
same names in the same order and the code that is written has the meaning that is found.

* `Scope.Sound`: all names that were handed out are free identifiers.
* `Agrees`: two steps take the same names and have related results.
* `Plan.Agrees`: carrying out a plan agrees with a part of the meaning.
-/

namespace SceneScript

/-! ## Sound scopes -/

/-- All names that were handed out are free identifiers. -/
structure Scope.Sound (s : Scope) : Prop where
  hygienic : s.names.Hygienic (s.fresh.map Prod.snd)
  fresh : ∀ entry ∈ s.fresh, isIdentifier entry.2 = true

namespace Script

theorem sound_initial (declared : List Variable) (runtime : String) :
    ({ names := .ofVariables declared runtime } : Scope).Sound :=
  ⟨Namespace.hygienic_ofVariables declared runtime, by simp⟩

theorem not_mem_reservedWords {ns : Namespace} {name : String} (h : name ∉ ns.reserved) :
    name ∉ reservedWords :=
  fun hmem => h (List.mem_cons_of_mem _ hmem)

/-- A name that is bound to a key is a free identifier. -/
theorem freeName_of_lookup {ns : Namespace} {claimed : List String} (h : ns.Hygienic claimed)
    {key name : String} (hkey : ns.bound.lookup key = some name) : FreeName name := by
  have hmem := Namespace.mem_bound_of_lookup hkey
  exact ⟨h.identifiers _ (Dict.mem_of_lookup hkey),
    not_mem_reservedWords (h.not_reserved name (List.mem_append_left _ hmem))⟩

/-! ## Agreement -/

section Agreement

variable {α β γ δ : Type}

/-- From sound names, two steps take the same names, which are sound again, and their results are
related. -/
def Agrees (R : α → β → Prop) (g : Naming α) (m : Naming β) : Prop :=
  ∀ s : Scope, s.Sound →
    (g.run s).2 = (m.run s).2 ∧ (m.run s).2.Sound ∧ R (g.run s).1 (m.run s).1

variable {R : α → β → Prop} {S : γ → δ → Prop}

theorem agrees_pure {a : α} {b : β} (h : R a b) : Agrees R (pure a) (pure b) :=
  fun _ hs => ⟨rfl, hs, h⟩

theorem Agrees.bind {g : Naming α} {m : Naming β} {f : α → Naming γ} {k : β → Naming δ}
    (h : Agrees R g m) (hf : ∀ a b, R a b → Agrees S (f a) (k b)) :
    Agrees S (g >>= f) (m >>= k) := by
  intro s hs
  obtain ⟨hstate, hsound, hresult⟩ := h s hs
  have hnext := hf _ _ hresult _ hsound
  have hleft : (g >>= f).run s = (f (g.run s).1).run (m.run s).2 := by rw [← hstate]; rfl
  rw [hleft]
  exact hnext

theorem agrees_get_bind {f : Scope → Naming α} {k : Scope → Naming β}
    (h : ∀ s, Agrees R (f s) (k s)) : Agrees R (get >>= f) (get >>= k) :=
  fun s hs => h s s hs

/-- Two steps that may give nothing agree. -/
def OptionalAgrees (R : α → β → Prop) (g : OptionT Naming α) (m : Optional β) : Prop :=
  Agrees (Option.Rel R) g.run m.run

theorem optionalAgrees_pure {a : α} {b : β} (h : R a b) : OptionalAgrees R (pure a) (pure b) :=
  agrees_pure (.some h)

theorem optionalAgrees_lift {g : Naming α} {m : Naming β} (h : Agrees R g m) :
    OptionalAgrees R (OptionT.lift g) (OptionT.lift m) :=
  h.bind fun _ _ hresult => agrees_pure (.some hresult)

theorem OptionalAgrees.bind {g : OptionT Naming α} {m : Optional β} {f : α → OptionT Naming γ}
    {k : β → Optional δ} (h : OptionalAgrees R g m)
    (hf : ∀ a b, R a b → OptionalAgrees S (f a) (k b)) :
    OptionalAgrees S (g >>= f) (m >>= k) := by
  rw [OptionalAgrees, OptionT.run_bind, OptionT.run_bind]
  refine Agrees.bind h fun a b hresult => ?_
  cases hresult with
  | some hresult => exact hf _ _ hresult
  | none => exact agrees_pure .none

end Agreement

/-! ## Names -/

/-- The same name, which is a free identifier. -/
def SameName (name name' : String) : Prop := name = name' ∧ FreeName name

theorem agrees_resolve (key : String) :
    Agrees SameName (Naming.resolve key) (Naming.resolve key) := by
  intro s hs
  have hnames := hs.hygienic.resolve key
  exact ⟨rfl, ⟨hnames, hs.fresh⟩, rfl, freeName_of_lookup hnames (Namespace.lookup_resolve _ key)⟩

theorem run_freshName (id field stem : String) (s : Scope) :
    (Naming.freshName id field stem).run s =
      match s.fresh.lookup (id, field) with
      | some name => (name, s)
      | none => ((s.names.claim stem).1,
          ⟨(s.names.claim stem).2, ((id, field), (s.names.claim stem).1) :: s.fresh⟩) := by
  change (match s.fresh.lookup (id, field) with
    | some name => pure name
    | none => _ : Naming String).run s = _
  cases s.fresh.lookup (id, field) <;> rfl

theorem agrees_freshName (id field : String) {stem : String} (hstem : isIdentifier stem = true) :
    Agrees SameName (Naming.freshName id field stem) (Naming.freshName id field stem) := by
  intro s hs
  rw [run_freshName]
  cases hlookup : s.fresh.lookup (id, field) with
  | some name =>
    have hmem := Dict.mem_of_lookup hlookup
    have hfree : name ∉ s.names.reserved :=
      hs.hygienic.not_reserved name (List.mem_append_right _ (List.mem_map_of_mem hmem))
    exact ⟨rfl, hs, rfl, hs.fresh _ hmem, not_mem_reservedWords hfree⟩
  | none =>
    have hidentifier : isIdentifier (s.names.claim stem).1 = true := by
      obtain ⟨n, hn⟩ := firstFree_eq_candidate
        (s.names.declaredNames ++ s.names.taken ++ s.names.reserved) (freshCandidate_injective stem)
      rw [Namespace.claim, hn]
      exact isIdentifier_numbered hstem (n + 1)
    exact ⟨rfl, ⟨hs.hygienic.claim stem, List.forall_mem_cons.2 ⟨hidentifier, hs.fresh⟩⟩, rfl,
      hidentifier, not_mem_reservedWords (Namespace.claim_fst_not_mem stem).2.2⟩

/-- What an unset field of variables stands for is a free identifier. -/
def ProperDefault : VariableDefault → Prop
  | .first fallback => FreeName fallback
  | .fresh stem => isIdentifier stem = true

instance : DecidablePred ProperDefault
  | .first fallback => inferInstanceAs (Decidable (FreeName fallback))
  | .fresh stem => inferInstanceAs (Decidable (isIdentifier stem = true))

end Script

/-- What a field stands for if it is not set is a free identifier. -/
def FieldKind.Proper : FieldKind → Prop
  | .reference _ initial => Script.ProperDefault initial
  | _ => True

instance : DecidablePred FieldKind.Proper
  | .reference _ initial => inferInstanceAs (Decidable (Script.ProperDefault initial))
  | .text _ | .number _ | .colour _ | .checkbox _ | .dropdown _ => isTrue trivial

theorem proper_of_mem_standard : ∀ d ∈ Registry.standard.definitions,
    ∀ field ∈ d.shape.fields, field.2.Proper := by
  rw [Registry.definitions_standard]
  decide

theorem Node.proper_of_fieldKind? {node : Node} {field : String} {kind : FieldKind}
    (h : node.fieldKind? .standard field = some kind) : kind.Proper := by
  obtain ⟨shape, hshape, hfield⟩ := Option.bind_eq_some_iff.1 h
  obtain ⟨d, hd, rfl⟩ := Option.map_eq_some_iff.1 hshape
  exact proper_of_mem_standard d (Registry.mem_of_get? hd) _ (Dict.mem_of_lookup hfield)

namespace Script

theorem agrees_identifier {node : Node} {field : String} {tag : SocketTag}
    {initial : VariableDefault}
    (hkind : node.fieldKind? .standard field = some (.reference tag initial))
    (hinitial : ProperDefault initial) :
    Agrees SameName (node.identifier .standard field) (node.identifier .standard field) := by
  unfold Node.identifier
  cases (node.fields.lookup field).bind FieldValue.reference? with
  | some id => exact agrees_resolve id
  | none =>
    rw [hkind]
    cases initial with
    | fresh stem => exact agrees_freshName node.id field hinitial
    | first fallback =>
      refine agrees_get_bind fun s => ?_
      cases s.names.firstOfTag? tag with
      | some v => exact agrees_resolve v.id
      | none => exact agrees_pure ⟨rfl, hinitial⟩

end Script

/-! ## Plans -/

namespace Plan

open Script

theorem run_bind {α β : Type} (parts : Parts) (f : α → Plan β) : ∀ plan : Plan α,
    (plan >>= f).run parts = plan.run parts >>= fun a => (f a).run parts
  | .done _ => rfl
  | .nothing => rfl
  | .value input outer next => by
    rw [Plan.run, bind_assoc]
    exact bind_congr fun code => run_bind parts f (next code)
  | .body input next => by
    rw [Plan.run, bind_assoc]
    exact bind_congr fun code => run_bind parts f (next code)
  | .identifier field next => by
    rw [Plan.run, bind_assoc]
    exact bind_congr fun name => run_bind parts f (next name)
  | .text field next => run_bind parts f (next (parts.text field))
  | .number field next => run_bind parts f (next (parts.number field))
  | .call args next => run_bind parts f (next (parts.call args))
  | .owner next => run_bind parts f (next parts.id parts.kind)

variable {α β γ δ : Type} {R : α → β → Prop} {S : γ → δ → Prop} {parts : Parts}

/-- Carrying out a plan agrees with a part of the meaning. -/
def Agrees (parts : Parts) (R : α → β → Prop) (plan : Plan α) (m : Optional β) : Prop :=
  OptionalAgrees R (plan.run parts) m

theorem Agrees.bind {plan : Plan α} {m : Optional β} {f : α → Plan γ} {k : β → Optional δ}
    (h : plan.Agrees parts R m) (hf : ∀ a b, R a b → (f a).Agrees parts S (k b)) :
    (plan >>= f).Agrees parts S (m >>= k) := by
  rw [Agrees, run_bind]
  exact OptionalAgrees.bind h hf

theorem agrees_done {a : α} {b : β} (h : R a b) : (Plan.done a).Agrees parts R (pure b) :=
  optionalAgrees_pure h

end Plan

namespace Script

/-- The code of a value stands on its own. -/
def CodesValue (runtime : String) (value : String × Precedence) (e : Expr) : Prop :=
  value.2 = .atomic ∧ Codes runtime value.1 e

/-- The answers to the rule of a block agree with what its inputs mean. -/
structure Answers (runtime : String) (node : Node) (inputs : Inputs) (parts : Parts) : Prop where
  id : parts.id = node.id
  kind : parts.kind = node.kind
  value : ∀ input outer,
    Agrees (Option.Rel (Codes runtime)) (parts.value input outer) (inputs.value input).run
  body : ∀ input, Agrees (Writes runtime) (parts.body input) (inputs.body input)
  identifier : ∀ field, parts.identifier field = node.identifier .standard field
  text : ∀ field, parts.text field = node.text .standard field
  number : ∀ field, parts.number field = Literal.number (node.number .standard field)
  call : ∀ d op, Registry.standard.get? node.kind = some d → d.operation = some op → ∀ args,
    parts.call args = op.call runtime args

namespace Answers

open Plan

variable {runtime : String} {node : Node} {inputs : Inputs} {parts : Parts}
  (h : Answers runtime node inputs parts)

include h

theorem agrees_require (input : String) (outer : Precedence) :
    (Plan.require input outer).Agrees parts (Codes runtime) (inputs.value input) := by
  have hrun : ((Plan.require input outer).run parts).run = parts.value input outer := by
    rw [Plan.require, Plan.run, OptionT.run_bind, OptionT.run_lift, Option.elimM, bind_assoc]
    conv_rhs => rw [← bind_pure (parts.value input outer)]
    refine bind_congr fun code => ?_
    cases code <;> rfl
  rw [Plan.Agrees, OptionalAgrees, hrun]
  exact h.value input outer

theorem agrees_valueOr (input : String) (outer : Precedence) {default : String} {n : Rat}
    (hdefault : Codes runtime default (.number n)) :
    (Plan.valueOr input outer default).Agrees parts (Codes runtime) (inputs.valueOr input n) := by
  have hrun : ((Plan.valueOr input outer default).run parts).run =
      parts.value input outer >>= fun code => pure (some (code.getD default)) := by
    rw [Plan.valueOr, Plan.run, OptionT.run_bind, OptionT.run_lift, Option.elimM, bind_assoc]
    rfl
  have hmeaning : (inputs.valueOr input n).run =
      (inputs.value input).run >>= fun e => pure (some (e.getD (.number n))) := by
    rw [Inputs.valueOr, OptionT.run_orElse, Option.elimM]
    refine bind_congr fun e => ?_
    cases e <;> rfl
  rw [Plan.Agrees, OptionalAgrees, hrun, hmeaning]
  refine (h.value input outer).bind fun code e hcode => agrees_pure (.some ?_)
  cases hcode with
  | some hcode => exact hcode
  | none => exact hdefault

theorem agrees_value? (input : String) (outer : Precedence) :
    (Plan.value? input outer).Agrees parts (Option.Rel (Codes runtime)) (inputs.value? input) := by
  have hlift := optionalAgrees_lift (h.value input outer)
  rwa [← bind_pure (OptionT.lift (parts.value input outer))] at hlift

theorem agrees_bodyOf (input : String) :
    (Plan.bodyOf input).Agrees parts (Writes runtime) (OptionT.lift (inputs.body input)) := by
  have hlift := optionalAgrees_lift (h.body input)
  rwa [← bind_pure (OptionT.lift (parts.body input))] at hlift

theorem agrees_identifierIn {field : String} {tag : SocketTag} {initial : VariableDefault}
    (hkind : node.fieldKind? .standard field = some (.reference tag initial))
    (hinitial : ProperDefault initial) :
    (Plan.identifierIn field).Agrees parts SameName (variableIn node field) := by
  have hagrees := agrees_identifier hkind hinitial
  have hlift := optionalAgrees_lift hagrees
  rw [Plan.Agrees, Plan.identifierIn, Plan.run, h.identifier]
  rwa [← bind_pure (OptionT.lift (node.identifier .standard field))] at hlift

variable {α β : Type} {R : α → β → Prop}

theorem agrees_literal (field : String) {f : String → Plan α} {m : Optional β}
    (hf : (f (Text.quote (node.text .standard field))).Agrees parts R m) :
    (Plan.literal field >>= f).Agrees parts R m := by
  rw [← h.text] at hf
  exact hf

theorem agrees_numberIn (field : String) {f : String → Plan α} {m : Optional β}
    (hf : (f (Literal.number (node.number .standard field))).Agrees parts R m) :
    (Plan.numberIn field >>= f).Agrees parts R m := by
  rw [← h.number] at hf
  exact hf

theorem agrees_describe (type : String) {codes : List (String × String)}
    {props : List (String × Expr)} (hprops : List.Forall₂ (CodesProp runtime) codes props)
    (hne : codes ≠ []) :
    (Plan.describe type codes).Agrees parts (CodesValue runtime)
      (pure (thing node type props)) := by
  refine optionalAgrees_pure ⟨rfl, ?_⟩
  rw [h.id]
  exact codes_thing hprops hne node type

section Calls

variable {d : Definition} (hd : Registry.standard.get? node.kind = some d) {op : Operation}
  (hop : d.operation = some op)

include hd hop

theorem agrees_call (args : List String) {f : String → Plan α} {m : Optional β}
    (hf : (f (op.call runtime args)).Agrees parts R m) :
    (Plan.callWith args >>= f).Agrees parts R m := by
  rw [← h.call d op hd hop] at hf
  exact hf

theorem agrees_perform (hruntime : FreeName runtime) (hstatement : op.isConstructor = false)
    {args : List String} {es : List Expr} (hargs : List.Forall₂ (Codes runtime) args es)
    (harity : es.length = op.arity) :
    (Plan.perform args).Agrees parts (Writes runtime) (pure [perform runtime op es]) := by
  refine optionalAgrees_pure ?_
  rw [h.call d op hd hop]
  exact writes_perform hruntime.1 hstatement hargs harity

end Calls

end Answers

end Script

end SceneScript
