import Mathlib.Data.List.Forall2
import Mathlib.Data.Option.Basic
import SceneScript.Generator

/-!
# Two programs in lockstep

Two programs whose blocks stand at the same places can be generated side by side. If the answers to
what the rules ask for are alike, and the rules treat alike answers alike, then the scripts are
alike. What being alike means is a parameter: it can be equality, or something that forgets a part
of the code.

* `Likeness`: what it means for names in use, for code and for answers to be alike.
* `Lockstep`: two steps of generating that fail alike or have alike results.
* `Plan.Alike`, `Rule.Alike`: two rules that ask for the same and treat alike answers alike.
* `Program.Alike`: two programs that are alike block by block.
* **`Program.Alike.script`**: alike programs have alike scripts.
* `Likeness.sameUpTo`: all answers are the same, and only the names in use can differ.
-/

namespace SceneScript

/-- What it means for names in use, for code and for the answers to a rule to be alike. -/
structure Likeness where
  scope : Scope → Scope → Prop
  code : String → String → Prop
  name : String → String → Prop
  text : String → String → Prop
  number : String → String → Prop
  id : String → String → Prop

/-! ## Steps -/

section Steps

variable {α β γ δ : Type}

/-- Two steps fail in the same way, or their results are related. -/
def SameOutcome (R : α → β → Prop) : Except BadGraph α → Except BadGraph β → Prop
  | .ok a, .ok b => R a b
  | .error e, .error e' => e = e'
  | _, _ => False

/-- From related names in use, two steps have the same outcome and leave related names in use. -/
def Lockstep (S : Scope → Scope → Prop) (R : α → β → Prop) (g : Gen α) (g' : Gen β) : Prop :=
  ∀ s s', S s s' → SameOutcome R (g.run.run s).1 (g'.run.run s').1 ∧
    S (g.run.run s).2 (g'.run.run s').2

variable {S : Scope → Scope → Prop} {R : α → β → Prop} {Q : γ → δ → Prop}

theorem lockstep_pure {a : α} {b : β} (h : R a b) : Lockstep S R (pure a) (pure b) :=
  fun _ _ hs => ⟨h, hs⟩

theorem lockstep_throw (e : BadGraph) : Lockstep S R (throw e) (throw e) :=
  fun _ _ hs => ⟨rfl, hs⟩

theorem run_bind_gen (g : Gen α) (f : α → Gen γ) (s : Scope) :
    (g >>= f).run.run s =
      match g.run.run s with
      | (.ok a, t) => (f a).run.run t
      | (.error e, t) => (.error e, t) := by
  rw [ExceptT.run_bind, StateT.run_bind]
  generalize g.run.run s = x
  rcases x with ⟨_ | _, _⟩ <;> rfl

theorem run_get_bind (f : Scope → Gen α) (s : Scope) :
    (get >>= f).run.run s = (f s).run.run s := rfl

theorem run_bind_eq_ok {g : Gen α} {f : α → Gen γ} {c : γ} {s t : Scope}
    (h : (g >>= f).run.run s = (.ok c, t)) :
    ∃ a u, g.run.run s = (.ok a, u) ∧ (f a).run.run u = (.ok c, t) := by
  rw [run_bind_gen] at h
  generalize g.run.run s = x at h
  obtain ⟨a | a, u⟩ := x
  · cases h
  · exact ⟨a, u, rfl, h⟩

theorem Lockstep.bind {g : Gen α} {g' : Gen β} {f : α → Gen γ} {f' : β → Gen δ}
    (h : Lockstep S R g g') (hf : ∀ a b, R a b → Lockstep S Q (f a) (f' b)) :
    Lockstep S Q (g >>= f) (g' >>= f') := by
  intro s s' hs
  obtain ⟨hresult, ht⟩ := h s s' hs
  rw [run_bind_gen, run_bind_gen]
  generalize g.run.run s = x at hresult ht ⊢
  generalize g'.run.run s' = x' at hresult ht ⊢
  obtain ⟨r, t⟩ := x
  obtain ⟨r', t'⟩ := x'
  cases r with
  | ok a =>
    cases r' with
    | ok b => exact hf a b hresult t t' ht
    | error e => exact hresult.elim
  | error e =>
    cases r' with
    | ok b => exact hresult.elim
    | error e' => exact ⟨hresult, ht⟩

end Steps

/-! ## Plans -/

/-- Two plans ask for the same, and go on alike when the answers are alike. -/
inductive Plan.Alike (L : Likeness) {α β : Type} (R : α → β → Prop) : Plan α → Plan β → Prop
  | done {a : α} {b : β} : R a b → Alike L R (.done a) (.done b)
  | nothing : Alike L R .nothing .nothing
  | value {input : String} {outer : Precedence} {next : Option String → Plan α}
      {next' : Option String → Plan β} :
    (∀ code code', Option.Rel L.code code code' → Alike L R (next code) (next' code')) →
      Alike L R (.value input outer next) (.value input outer next')
  | body {input : String} {next : String → Plan α} {next' : String → Plan β} :
    (∀ code code', L.code code code' → Alike L R (next code) (next' code')) →
      Alike L R (.body input next) (.body input next')
  | identifier {field : String} {next : String → Plan α} {next' : String → Plan β} :
    (∀ name name', L.name name name' → Alike L R (next name) (next' name')) →
      Alike L R (.identifier field next) (.identifier field next')
  | text {field : String} {next : String → Plan α} {next' : String → Plan β} :
    (∀ s s', L.text s s' → Alike L R (next s) (next' s')) →
      Alike L R (.text field next) (.text field next')
  | number {field : String} {next : String → Plan α} {next' : String → Plan β} :
    (∀ n n', L.number n n' → Alike L R (next n) (next' n')) →
      Alike L R (.number field next) (.number field next')
  | call {args args' : List String} {next : String → Plan α} {next' : String → Plan β} :
    List.Forall₂ L.code args args' →
      (∀ code code', L.code code code' → Alike L R (next code) (next' code')) →
      Alike L R (.call args next) (.call args' next')
  | owner {next : String → String → Plan α} {next' : String → String → Plan β} :
    (∀ id id' kind, L.id id id' → Alike L R (next id kind) (next' id' kind)) →
      Alike L R (.owner next) (.owner next')

namespace Plan.Alike

variable {L : Likeness} {α β γ δ : Type} {R : α → β → Prop} {Q : γ → δ → Prop}

theorem bind {plan : Plan α} {plan' : Plan β} {f : α → Plan γ} {f' : β → Plan δ}
    (h : plan.Alike L R plan') (hf : ∀ a b, R a b → (f a).Alike L Q (f' b)) :
    (plan >>= f).Alike L Q (plan' >>= f') := by
  induction h with
  | done hresult => exact hf _ _ hresult
  | nothing => exact .nothing
  | value _ ih => exact .value fun code code' hcode => ih code code' hcode
  | body _ ih => exact .body fun code code' hcode => ih code code' hcode
  | identifier _ ih => exact .identifier fun name name' hname => ih name name' hname
  | text _ ih => exact .text fun s s' hs => ih s s' hs
  | number _ ih => exact .number fun n n' hn => ih n n' hn
  | call hargs _ ih => exact .call hargs fun code code' hcode => ih code code' hcode
  | owner _ ih => exact .owner fun id id' kind hid => ih id id' kind hid

end Plan.Alike

/-- Two results of a rule for values: alike code of the same precedence. -/
def ValuesAlike (L : Likeness) (v v' : String × Precedence) : Prop :=
  L.code v.1 v'.1 ∧ v.2 = v'.2

/-- Two rules ask for the same and treat alike answers alike. -/
inductive Rule.Alike (L : Likeness) : Rule → Rule → Prop
  | statement {plan plan' : Plan String} :
    plan.Alike L L.code plan' → Alike L (.statement plan) (.statement plan')
  | value {plan plan' : Plan (String × Precedence)} :
    plan.Alike L (ValuesAlike L) plan' → Alike L (.value plan) (.value plan')

/-- Two fragments of the same sort with alike code. -/
inductive Fragment.Alike (L : Likeness) : Fragment → Fragment → Prop
  | statement {code code' : String} :
    L.code code code' → Alike L (.statement code) (.statement code')
  | value {code code' : String} (precedence : Precedence) :
    L.code code code' → Alike L (.value code precedence) (.value code' precedence)

/-- Code stays alike when it is put in parentheses, on lines and behind margins. -/
structure Likeness.Regular (L : Likeness) (margin : String) : Prop where
  empty : L.code "" ""
  isEmpty_eq : ∀ code code', L.code code code' → code.isEmpty = code'.isEmpty
  wrap : ∀ code code', L.code code code' → ∀ inner outer : Precedence,
    L.code (inner.wrap code outer) (inner.wrap code' outer)
  lines : ∀ codes codes', List.Forall₂ L.code codes codes' →
    L.code (String.intercalate "\n" codes) (String.intercalate "\n" codes')
  indent : ∀ code code', L.code code code' →
    L.code (Text.indent margin code) (Text.indent margin code')

/-! ## Blocks -/

/-- The code of blocks one level further inside goes in lockstep. -/
def InnerAlike (L : Likeness) (inner inner' : Ref → Gen Fragment) : Prop :=
  ∀ r, Lockstep L.scope (Fragment.Alike L) (inner r) (inner' r)

/-- What the rules of two blocks ask for is answered alike. -/
structure Program.BlockAlike (L : Likeness) (p p' : Program) (b b' : Block) : Prop where
  id : L.id b.id b'.id
  kind : b.kind = b'.kind
  enabled : b.enabled = b'.enabled
  output : b.output = b'.output
  next : b.next = b'.next
  rule : Option.Rel (fun d d' : Definition => d.rule.Alike L d'.rule) (p.definition? b)
    (p'.definition? b')
  statements : ∀ input, b.statementInput input = b'.statementInput input
  value : ∀ {inner inner'}, InnerAlike L inner inner' → ∀ input outer,
    Lockstep L.scope (Option.Rel L.code) (p.valueCode inner b input outer)
      (p'.valueCode inner' b' input outer)
  identifier : ∀ field,
    Lockstep L.scope L.name (p.variableField b field) (p'.variableField b' field)
  text : ∀ field, L.text (p.fieldText b field) (p'.fieldText b' field)
  number : ∀ field, L.number (p.fieldNumber b field) (p'.fieldNumber b' field)
  call : ∀ args args', List.Forall₂ L.code args args' →
    L.code (p.runtimeCall b args) (p'.runtimeCall b' args')

/-- Two programs are alike: their blocks stand at the same places and are alike one by one. -/
structure Program.Alike (L : Likeness) (p p' : Program) : Prop where
  regular : L.Regular p.options.indent
  indent : p.options.indent = p'.options.indent
  scope : L.scope p.initialScope p'.initialScope
  top : p.workspace.top = p'.workspace.top
  size : p.workspace.size = p'.workspace.size
  block : ∀ r, Option.Rel (p.BlockAlike L p') (p.workspace.block? r) (p'.workspace.block? r)

namespace Program

variable {L : Likeness} {p p' : Program} {inner inner' : Ref → Gen Fragment}

theorem lockstep_block (h : p.Alike L p') (r : Ref) :
    Lockstep L.scope (p.BlockAlike L p') (p.block r) (p'.block r) := by
  have hblock := h.block r
  unfold block
  cases hb : p.workspace.block? r with
  | none =>
    cases hb' : p'.workspace.block? r with
    | none => exact lockstep_throw _
    | some b' => rw [hb, hb'] at hblock; cases hblock
  | some b =>
    cases hb' : p'.workspace.block? r with
    | none => rw [hb, hb'] at hblock; cases hblock
    | some b' =>
      rw [hb, hb'] at hblock
      cases hblock with
      | some hblock => exact lockstep_pure hblock

theorem lockstep_blocksCode (hregular : L.Regular p.options.indent)
    (hinner : InnerAlike L inner inner') : ∀ refs : List Ref,
      Lockstep L.scope (List.Forall₂ L.code) (blocksCode inner refs) (blocksCode inner' refs)
  | [] => lockstep_pure .nil
  | r :: rest => by
    refine (hinner r).bind fun f f' hf => ?_
    refine (lockstep_blocksCode hregular hinner rest).bind fun codes codes' hcodes => ?_
    have hcode : L.code f.code f'.code := by cases hf <;> assumption
    have hempty : f.isEmpty = f'.isEmpty := hregular.isEmpty_eq _ _ hcode
    rw [hempty]
    cases f'.isEmpty with
    | true => exact lockstep_pure hcodes
    | false => exact lockstep_pure (.cons hcode hcodes)

/-- The value in an input that nothing refuses, as it stands in a context. -/
theorem lockstep_innerValue {margin : String} (hregular : L.Regular margin)
    (hinner : InnerAlike L inner inner') (r : Ref) (outer : Precedence) :
    Lockstep L.scope (Option.Rel L.code)
      (inner r >>= fun
        | .value code precedence =>
          return if code.isEmpty then none else some (precedence.wrap code outer)
        | .statement _ => return none)
      (inner' r >>= fun
        | .value code precedence =>
          return if code.isEmpty then none else some (precedence.wrap code outer)
        | .statement _ => return none) := by
  refine (hinner r).bind fun f f' hf => ?_
  cases hf with
  | statement _ => exact lockstep_pure .none
  | value precedence hcode =>
    refine lockstep_pure ?_
    rw [hregular.isEmpty_eq _ _ hcode]
    split_ifs with hempty
    · exact .none
    · exact .some (hregular.wrap _ _ hcode precedence outer)

/-- Chains of alike programs go through the same places. -/
theorem Alike.chain_eq (h : p.Alike L p') : ∀ (limit : Nat) (head : Option Ref),
    (p.workspace.chain limit head).map Prod.fst = (p'.workspace.chain limit head).map Prod.fst
  | 0, _ => rfl
  | _ + 1, none => rfl
  | limit + 1, some r => by
    have hblock := h.block r
    unfold Workspace.chain
    cases hb : p.workspace.block? r with
    | none =>
      cases hb' : p'.workspace.block? r with
      | none => rfl
      | some b' => rw [hb, hb'] at hblock; cases hblock
    | some b =>
      cases hb' : p'.workspace.block? r with
      | none => rw [hb, hb'] at hblock; cases hblock
      | some b' =>
        rw [hb, hb'] at hblock
        cases hblock with
        | some hblock =>
          have hnext := h.chain_eq limit b.next
          dsimp only
          rw [List.map_cons, List.map_cons, hnext, hblock.next]

theorem lockstep_chainCode (h : p.Alike L p') (hinner : InnerAlike L inner inner') (head : Ref) :
    Lockstep L.scope L.code (p.chainCode inner head) (p'.chainCode inner' head) := by
  unfold chainCode
  dsimp only
  rw [h.chain_eq, h.size]
  refine (lockstep_blocksCode h.regular hinner _).bind fun codes codes' hcodes => ?_
  exact lockstep_pure (h.regular.lines codes codes' hcodes)

section Rules

variable (h : p.Alike L p') (hinner : InnerAlike L inner inner') {b b' : Block}
  (hb : p.BlockAlike L p' b b')

include h hinner hb

theorem lockstep_bodyCode (input : String) :
    Lockstep L.scope L.code (p.bodyCode inner b input) (p'.bodyCode inner' b' input) := by
  unfold bodyCode
  rw [hb.statements, h.indent]
  cases b'.statementInput input with
  | none => exact lockstep_pure h.regular.empty
  | some head =>
    refine (lockstep_chainCode h hinner head).bind fun code code' hcode => lockstep_pure ?_
    rw [← h.indent]
    exact h.regular.indent code code' hcode

/-- Alike plans are carried out in lockstep. -/
theorem lockstep_interpret {α β : Type} {R : α → β → Prop} {plan : Plan α} {plan' : Plan β}
    (hplan : plan.Alike L R plan') :
    Lockstep L.scope (Option.Rel R) (p.interpret p.variableField inner b plan)
      (p'.interpret p'.variableField inner' b' plan') := by
  induction hplan with
  | done hresult => exact lockstep_pure (.some hresult)
  | nothing => exact lockstep_pure .none
  | value _ ih => exact (hb.value hinner _ _).bind fun code code' hcode => ih code code' hcode
  | body _ ih =>
    exact (lockstep_bodyCode h hinner hb _).bind fun code code' hcode => ih code code' hcode
  | identifier _ ih => exact (hb.identifier _).bind fun name name' hname => ih name name' hname
  | text _ ih => exact ih _ _ (hb.text _)
  | number _ ih => exact ih _ _ (hb.number _)
  | call hargs _ ih => exact ih _ _ (hb.call _ _ hargs)
  | owner _ ih =>
    unfold interpret
    rw [← hb.kind]
    exact ih _ _ _ hb.id

omit hinner in
theorem lockstep_emptyFragment :
    Lockstep L.scope (Fragment.Alike L) (pure (emptyFragment b)) (pure (emptyFragment b')) := by
  unfold emptyFragment
  rw [hb.output]
  cases b'.output with
  | none => exact lockstep_pure (.statement h.regular.empty)
  | some tag => exact lockstep_pure (.value _ h.regular.empty)

theorem lockstep_applyRule {rule rule' : Rule} (hrule : rule.Alike L rule') :
    Lockstep L.scope (Fragment.Alike L) (p.applyRule p.variableField inner b rule)
      (p'.applyRule p'.variableField inner' b' rule') := by
  cases hrule with
  | statement hplan =>
    refine (lockstep_interpret h hinner hb hplan).bind fun code code' hcode => ?_
    cases hcode with
    | none => exact lockstep_pure (.statement h.regular.empty)
    | some hcode => exact lockstep_pure (.statement hcode)
  | value hplan =>
    refine (lockstep_interpret h hinner hb hplan).bind fun v v' hv => ?_
    cases hv with
    | none => exact lockstep_emptyFragment h hb
    | @some v v' hv =>
      obtain ⟨code, precedence⟩ := v
      obtain ⟨code', precedence'⟩ := v'
      obtain ⟨hcode, rfl⟩ := hv
      exact lockstep_pure (.value precedence hcode)

end Rules

theorem lockstep_fragmentStep (h : p.Alike L p') (hinner : InnerAlike L inner inner') :
    InnerAlike L (p.fragmentStep p.variableField inner)
      (p'.fragmentStep p'.variableField inner') := by
  intro r
  refine (lockstep_block h r).bind fun b b' hb => ?_
  have hempty := lockstep_emptyFragment h hb
  rw [hb.enabled]
  cases b'.enabled with
  | false => exact hempty
  | true =>
    have hrule := hb.rule
    cases hd : p.definition? b with
    | none =>
      cases hd' : p'.definition? b' with
      | none => exact hempty
      | some d' => rw [hd, hd'] at hrule; cases hrule
    | some d =>
      cases hd' : p'.definition? b' with
      | none => rw [hd, hd'] at hrule; cases hrule
      | some d' =>
        rw [hd, hd'] at hrule
        cases hrule with
        | some hrule => exact lockstep_applyRule h hinner hb hrule

/-- The code of a block, whatever the number of levels. -/
theorem lockstep_fragmentWithin (h : p.Alike L p') : ∀ levels : Nat,
    InnerAlike L (p.fragmentWithin levels) (p'.fragmentWithin levels)
  | 0 => fun _ => lockstep_throw _
  | levels + 1 => lockstep_fragmentStep h (lockstep_fragmentWithin h levels)

theorem lockstep_topCode (h : p.Alike L p') (hinner : InnerAlike L inner inner') :
    ∀ top : List Ref,
      Lockstep L.scope (List.Forall₂ L.code) (p.topCode inner top) (p'.topCode inner' top)
  | [] => lockstep_pure .nil
  | head :: rest => by
    have hrest := lockstep_topCode h hinner rest
    refine (lockstep_block h head).bind fun b b' hb => ?_
    have hstatement : b.isStatement = b'.isStatement := by
      unfold Block.isStatement
      rw [hb.output]
    rw [hstatement]
    cases b'.isStatement with
    | false => exact hrest
    | true =>
      refine (lockstep_chainCode h hinner head).bind fun code code' hcode => ?_
      refine hrest.bind fun codes codes' hcodes => ?_
      rw [h.regular.isEmpty_eq code code' hcode]
      cases code'.isEmpty with
      | true => exact lockstep_pure hcodes
      | false => exact lockstep_pure (.cons hcode hcodes)

/-- **Alike programs have alike scripts.** -/
theorem Alike.script (h : p.Alike L p') : SameOutcome L.code p.script p'.script := by
  have hlevels : p.maxLevels = p'.maxLevels := congrArg (· + 1) h.size
  have hinner := lockstep_fragmentWithin h p'.maxLevels
  have htop : SameOutcome (List.Forall₂ L.code)
      (p.runFresh (p.topCode (p.fragmentWithin p'.maxLevels) p.workspace.top))
      (p'.runFresh (p'.topCode (p'.fragmentWithin p'.maxLevels) p.workspace.top)) :=
    (lockstep_topCode h hinner p.workspace.top _ _ h.scope).1
  unfold Program.script scriptWithin
  rw [hlevels, ← h.top]
  generalize p.runFresh _ = r at htop ⊢
  generalize p'.runFresh _ = r' at htop ⊢
  cases r with
  | error e =>
    cases r' with
    | error e' => exact htop
    | ok codes' => exact htop.elim
  | ok codes =>
    cases r' with
    | error e' => exact htop.elim
    | ok codes' => exact h.regular.lines codes codes' htop

end Program

/-! ## Programs with the same answers -/

/-- All answers are the same; only the names in use can differ. -/
def Likeness.sameUpTo (S : Scope → Scope → Prop) : Likeness := ⟨S, Eq, Eq, Eq, Eq, Eq⟩

section SameUpTo

variable (S : Scope → Scope → Prop)

theorem Likeness.regular_sameUpTo (margin : String) : (sameUpTo S).Regular margin where
  empty := rfl
  isEmpty_eq _ _ h := congrArg _ h
  wrap _ _ h _ _ := congrArg (Precedence.wrap · _ _) h
  lines codes codes' h := by
    have heq : codes = codes' := (congrFun₂ List.forall₂_eq_eq_eq codes codes').mp h
    exact congrArg _ heq
  indent _ _ h := congrArg _ h

theorem eq_of_rel_eq {α : Type} {a b : Option α} (h : Option.Rel Eq a b) : a = b := by
  cases h with
  | some h => exact congrArg some h
  | none => rfl

variable {S}

theorem Plan.alike_self {α : Type} : ∀ plan : Plan α, plan.Alike (.sameUpTo S) Eq plan
  | .done _ => .done rfl
  | .nothing => .nothing
  | .value _ _ next => .value fun code _ h => eq_of_rel_eq h ▸ alike_self (next code)
  | .body _ next => .body fun code _ h => h ▸ alike_self (next code)
  | .identifier _ next => .identifier fun name _ h => h ▸ alike_self (next name)
  | .text _ next => .text fun s _ h => h ▸ alike_self (next s)
  | .number _ next => .number fun n _ h => h ▸ alike_self (next n)
  | .call _ next =>
    .call (List.forall₂_same.2 fun _ _ => rfl) fun code _ h => h ▸ alike_self (next code)
  | .owner next => .owner fun id _ kind h => h ▸ alike_self (next id kind)

theorem Rule.alike_self : ∀ rule : Rule, rule.Alike (.sameUpTo S) rule
  | .statement plan => .statement plan.alike_self
  | .value plan => by
    have hrel : ValuesAlike (.sameUpTo S) = Eq := by
      funext v v'
      exact propext Prod.ext_iff.symm
    exact .value (hrel ▸ plan.alike_self)

end SameUpTo

theorem eq_of_sameOutcome {α : Type} {x y : Except BadGraph α} (h : SameOutcome Eq x y) :
    x = y := by
  cases x with
  | ok a =>
    cases y with
    | ok b => exact congrArg _ h
    | error e => exact h.elim
  | error e =>
    cases y with
    | ok b => exact h.elim
    | error e' => exact congrArg _ h

end SceneScript
