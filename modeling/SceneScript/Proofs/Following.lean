import SceneScript.Proofs.Lockstep

/-!
# Following a run

One run follows another one if it has the same result wherever the other one has a result. In this
way a run that stops where something is not as expected is compared with the plain run: if it does
not stop, the plain run is the same, and if nothing unexpected can happen, it does not stop.

* `Follows`: a step that has the result of another one, if that has one.
* `Program.scriptAsking`: the script with another way to find the identifiers of fields.
* `Workspace.Muted`: a workspace of which only some blocks stay enabled.
* **`Program.follows_fragmentStep`**, **`Program.follows_topCode`**: a run follows another one if it
  does so block by block.
* **`Program.scriptAsking_eq`**: a script with another way to find identifiers.
-/

namespace SceneScript

/-! ## Steps -/

section Steps

variable {α β : Type} {I : Scope → Prop}

/-- From names in use with `I`, the second step has the result of the first one, if that has one. It
takes the same names, and these have `I` again. -/
def Follows (I : Scope → Prop) (g g' : Gen α) : Prop :=
  ∀ s a t, I s → g.run.run s = (.ok a, t) → g'.run.run s = (.ok a, t) ∧ I t

theorem follows_pure (a : α) : Follows I (pure a) (pure a) := by
  rintro s _ _ hs ⟨⟩
  exact ⟨rfl, hs⟩

theorem follows_throw (e : BadGraph) (g : Gen α) : Follows I (throw e) g := by
  rintro s _ _ _ ⟨⟩

theorem Follows.bind {g g' : Gen α} {f f' : α → Gen β} (hg : Follows I g g')
    (hf : ∀ a, Follows I (f a) (f' a)) : Follows I (g >>= f) (g' >>= f') := by
  intro s b t hs hrun
  obtain ⟨a, u, hfirst, hrest⟩ := run_bind_eq_ok hrun
  obtain ⟨hfirst', hu⟩ := hg s a u hs hfirst
  rw [run_bind_gen, hfirst']
  exact hf a u b t hu hrest

/-- A step that at most stops the run goes unnoticed. -/
theorem Follows.unnoticed {g g' : Gen α} {f : α → Gen α} (hg : Follows I g g')
    (hf : ∀ a, Follows I (f a) (pure a)) : Follows I (g >>= f) g' := by
  have hbind := hg.bind hf
  rwa [bind_pure] at hbind

end Steps

/-! ## Other ways to find identifiers -/

namespace Program

section Asking

variable (p : Program) (ask : Block → String → Gen String)

/-- The script of a workspace, with another way to find the identifiers of fields. -/
def scriptAsking : Except BadGraph String :=
  (p.runFresh (p.topCode (p.fragmentAsking ask p.maxLevels) p.workspace.top)).map
    (String.intercalate "\n")

end Asking

end Program

/-! ## Muted blocks -/

/-- The second workspace is the first one with all blocks disabled that are not in `keep`. -/
structure Workspace.Muted (w : Workspace) (keep : Ref → Bool) (w' : Workspace) : Prop where
  block? : ∀ r, w'.block? r =
    (w.block? r).map fun b => { b with enabled := b.enabled && keep r }
  size : w'.size = w.size
  top : w'.top = w.top
  declared : w'.declared = w.declared

theorem Workspace.muted_self (w : Workspace) : w.Muted (fun _ => true) w where
  block? := by simp
  size := rfl
  top := rfl
  declared := rfl

namespace Program

variable {I : Scope → Prop} {p : Program} {keep : Ref → Bool} {w' : Workspace}
  (hmuted : p.workspace.Muted keep w') {ask ask' : Block → String → Gen String}
  {inner inner' : Ref → Gen Fragment} (hinner : ∀ r, Follows I (inner r) (inner' r))

include hinner

theorem follows_blocksCode : ∀ refs : List Ref,
    Follows I (blocksCode inner refs) (blocksCode inner' refs)
  | [] => follows_pure []
  | r :: rest => (hinner r).bind fun _ => (follows_blocksCode rest).bind fun _ => follows_pure _

include hmuted

theorem follows_valueCode (b : Block) (input : String) (outer : Precedence) :
    Follows I (p.valueCode inner b input outer)
      (({ p with workspace := w' } : Program).valueCode inner' b input outer) := by
  unfold valueCode block
  cases b.valueInput input with
  | none => exact follows_pure none
  | some s =>
    dsimp only
    rw [hmuted.block?]
    cases p.workspace.block? s with
    | none => exact follows_throw _ _
    | some child =>
      simp only [Option.map_some, pure_bind]
      have hrefuses : ({ p with workspace := w' } : Program).refuses b input
          { child with enabled := child.enabled && keep s } = p.refuses b input child := rfl
      rw [hrefuses]
      split_ifs
      · exact follows_pure none
      · refine (hinner s).bind fun fragment => ?_
        cases fragment with
        | value code precedence => exact follows_pure _
        | statement code => exact follows_pure none

omit hinner in
theorem map_fst_chain_eq : ∀ (limit : Nat) (head : Option Ref),
    (w'.chain limit head).map Prod.fst = (p.workspace.chain limit head).map Prod.fst
  | 0, _ => rfl
  | _ + 1, none => rfl
  | limit + 1, some s => by
    rw [Workspace.chain, Workspace.chain, hmuted.block?]
    cases p.workspace.block? s with
    | none => rfl
    | some b =>
      have hrest := map_fst_chain_eq limit b.next
      simp only [Option.map_some, List.map_cons]
      exact congrArg (s :: ·) hrest

theorem follows_chainCode (head : Ref) : Follows I (p.chainCode inner head)
    (({ p with workspace := w' } : Program).chainCode inner' head) := by
  unfold chainCode
  dsimp only
  rw [map_fst_chain_eq hmuted, hmuted.size]
  exact (follows_blocksCode hinner _).bind fun _ => follows_pure _

theorem follows_bodyCode (b : Block) (input : String) : Follows I (p.bodyCode inner b input)
    (({ p with workspace := w' } : Program).bodyCode inner' b input) := by
  unfold bodyCode
  cases b.statementInput input with
  | none => exact follows_pure ""
  | some head => exact (follows_chainCode hmuted hinner head).bind fun _ => follows_pure _

theorem follows_interpret {α : Type} {b : Block}
    (hask : ∀ field, Follows I (ask b field) (ask' b field)) : ∀ plan : Plan α,
      Follows I (p.interpret ask inner b plan)
        (({ p with workspace := w' } : Program).interpret ask' inner' b plan)
  | .done _ | .nothing => follows_pure _
  | .value input outer next =>
    (follows_valueCode hmuted hinner b input outer).bind fun code =>
      follows_interpret hask (next code)
  | .body input next =>
    (follows_bodyCode hmuted hinner b input).bind fun code => follows_interpret hask (next code)
  | .identifier field next => (hask field).bind fun name => follows_interpret hask (next name)
  | .text _ next | .number _ next | .call _ next => follows_interpret hask (next _)
  | .owner next => follows_interpret hask (next _ _)

theorem follows_applyRule {b : Block} (hask : ∀ field, Follows I (ask b field) (ask' b field))
    (rule : Rule) : Follows I (p.applyRule ask inner b rule)
      (({ p with workspace := w' } : Program).applyRule ask' inner' b rule) := by
  cases rule with
  | statement plan =>
    refine (follows_interpret hmuted hinner hask plan).bind fun code => ?_
    cases code <;> exact follows_pure _
  | value plan =>
    refine (follows_interpret hmuted hinner hask plan).bind fun result => ?_
    cases result <;> exact follows_pure _

/-- **Following a block** that stays as it is: it is enough to follow the blocks in its inputs and
the identifiers of its fields. -/
theorem follows_fragmentStep {r : Ref} (hkeep : keep r = true)
    (hask : ∀ b, p.workspace.block? r = some b → ∀ field, Follows I (ask b field) (ask' b field)) :
    Follows I (p.fragmentStep ask inner r)
      (({ p with workspace := w' } : Program).fragmentStep ask' inner' r) := by
  unfold fragmentStep block
  dsimp only
  rw [hmuted.block?, hkeep]
  cases hb : p.workspace.block? r with
  | none => exact follows_throw _ _
  | some b =>
    simp only [Option.map_some, pure_bind, Bool.and_true]
    split_ifs
    · exact follows_pure _
    · have hdefinition : ({ p with workspace := w' } : Program).definition? b =
          p.definition? b := rfl
      rw [hdefinition]
      cases p.definition? b with
      | none => exact follows_pure _
      | some d => exact follows_applyRule hmuted hinner (hask b hb) d.rule

/-- **Following a whole run**: it is enough to follow the blocks. -/
theorem follows_topCode : ∀ top : List Ref, Follows I (p.topCode inner top)
    (({ p with workspace := w' } : Program).topCode inner' top)
  | [] => follows_pure []
  | head :: rest => by
    unfold topCode block
    dsimp only
    rw [hmuted.block?]
    cases p.workspace.block? head with
    | none => exact follows_throw _ _
    | some b =>
      have hstatement :
          ({ b with enabled := b.enabled && keep head } : Block).isStatement = b.isStatement := rfl
      simp only [Option.map_some, pure_bind, hstatement]
      have hrest := follows_topCode rest
      split_ifs
      · exact (follows_chainCode hmuted hinner head).bind fun _ => hrest.bind fun _ =>
          follows_pure _
      · exact hrest

end Program

/-! ## Whole scripts -/

namespace Program

variable {I : Scope → Prop} {p : Program} {ask : Block → String → Gen String}
  (hask : ∀ r b, p.workspace.block? r = some b → ∀ field,
    Follows I (p.variableField b field) (ask b field))

include hask

theorem follows_fragmentAsking : ∀ (levels : Nat) (r : Ref),
    Follows I (p.fragmentWithin levels r) (p.fragmentAsking ask levels r)
  | 0, _ => follows_throw _ _
  | levels + 1, r => by
    exact follows_fragmentStep p.workspace.muted_self (follows_fragmentAsking levels) rfl (hask r)

/-- **The script stays the same** if another way to find identifiers follows the usual one. -/
theorem scriptAsking_eq (hI : I p.initialScope) {script : String}
    (hscript : p.script = .ok script) : p.scriptAsking ask = .ok script := by
  rw [Program.script, scriptWithin] at hscript
  cases hrun : p.runFresh (p.topCode (p.fragmentWithin p.maxLevels) p.workspace.top) with
  | error e =>
    rw [hrun] at hscript
    cases hscript
  | ok codes =>
    rw [hrun] at hscript
    cases hscript
    obtain ⟨hrun', -⟩ := follows_topCode p.workspace.muted_self
      (follows_fragmentAsking hask p.maxLevels) p.workspace.top _ codes _ hI (Prod.ext hrun rfl)
    rw [scriptAsking, runFresh, hrun']
    rfl

end Program

end SceneScript
