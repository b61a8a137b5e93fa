import SceneScript.Proofs.Findings
import SceneScript.Proofs.Lockstep

/-!
# Other fields in the same blocks

Two workspaces can have the same blocks at the same places, with other values in the fields, and
maybe with other variables. If the fields answer alike to all that the rules ask about them, then
the scripts are the same. If the same is found about the fields, then the same is found about the
workspaces.

* `Workspace.Refilled`: a workspace with other fields in its blocks.
* `Program.FieldsAlike`: the fields of two blocks answer alike.
* **`Program.script_refilled`**: the scripts are the same if the fields answer alike.
* **`Workspace.check_refilled`**: the findings are the same if those about the fields are.
-/

namespace SceneScript

/-- The second workspace has the blocks of the first one at the same places, with other fields in
them. Its variables can be others as well. -/
structure Workspace.Refilled (w : Workspace) (fill : Ref → Block → Dict FieldValue)
    (w' : Workspace) : Prop where
  block? : ∀ r, w'.block? r = (w.block? r).map fun b => { b with fields := fill r b }
  size : w'.size = w.size
  top : w'.top = w.top

namespace Program

/-! ## Scripts -/

/-- What the rule of a block asks about its fields is answered alike for two blocks. -/
structure FieldsAlike (S : Scope → Scope → Prop) (p p' : Program) (b b' : Block) : Prop where
  identifier : ∀ field, Lockstep S Eq (p.variableField b field) (p'.variableField b' field)
  text : ∀ field, p.fieldText b field = p'.fieldText b' field
  number : ∀ field, p.fieldNumber b field = p'.fieldNumber b' field

variable {p : Program} {fill : Ref → Block → Dict FieldValue} {w' : Workspace}
  (h : p.workspace.Refilled fill w') {S : Scope → Scope → Prop}

include h

/-- Whether a value is refused does not depend on fields. -/
theorem lockstep_valueCode_refilled {inner inner' : Ref → Gen Fragment}
    (hinner : InnerAlike (.sameUpTo S) inner inner') (b : Block) (fields : Dict FieldValue)
    (input : String) (outer : Precedence) :
    Lockstep S (Option.Rel Eq) (p.valueCode inner b input outer)
      (({ p with workspace := w' } : Program).valueCode inner' { b with fields } input outer) := by
  have hinput : ({ b with fields } : Block).valueInput input = b.valueInput input := rfl
  unfold valueCode
  rw [hinput]
  cases b.valueInput input with
  | none => exact lockstep_pure .none
  | some s =>
    simp only [block, h.block?]
    cases p.workspace.block? s with
    | none => exact lockstep_throw _
    | some child =>
      have hrefuses : ({ p with workspace := w' } : Program).refuses { b with fields } input
          { child with fields := fill s child } = p.refuses b input child := rfl
      simp only [Option.map_some, pure_bind, hrefuses]
      split_ifs
      · exact lockstep_pure .none
      · exact lockstep_innerValue (Likeness.regular_sameUpTo S p.options.indent) hinner s outer

variable (hscope : S p.initialScope ({ p with workspace := w' } : Program).initialScope)
  (hfields : ∀ r b, p.workspace.block? r = some b →
    FieldsAlike S p { p with workspace := w' } b { b with fields := fill r b })

include hscope hfields

theorem alike_refilled : p.Alike (.sameUpTo S) { p with workspace := w' } where
  regular := Likeness.regular_sameUpTo S _
  indent := rfl
  scope := hscope
  top := h.top.symm
  size := h.size.symm
  block r := by
    dsimp only
    rw [h.block?]
    cases hb : p.workspace.block? r with
    | none => exact .none
    | some b =>
      have halike := hfields r b hb
      refine .some ?_
      exact {
        id := rfl
        kind := rfl
        enabled := rfl
        output := rfl
        next := rfl
        rule := by
          unfold definition?
          dsimp only
          cases p.registry.get? b.kind with
          | none => exact .none
          | some d => exact .some d.rule.alike_self
        statements := fun _ => rfl
        value := fun hinner input outer =>
          lockstep_valueCode_refilled h hinner b (fill r b) input outer
        identifier := halike.identifier
        text := halike.text
        number := halike.number
        call := fun args args' hargs => by
          have heq : args = args' := (congrFun₂ List.forall₂_eq_eq_eq args args').mp hargs
          rw [heq]
          rfl }

/-- **The script stays the same** if the fields answer alike. -/
theorem script_refilled : ({ p with workspace := w' } : Program).script = p.script :=
  (eq_of_sameOutcome (alike_refilled h hscope hfields).script).symm

end Program

/-! ## Findings -/

namespace Workspace

variable {w w' : Workspace} {fill : Ref → Block → Dict FieldValue} (h : w.Refilled fill w')

include h

theorem inputProblem?_refilled (shape : Shape) (b : Block) (fields : Dict FieldValue) :
    w'.inputProblem? shape { b with fields } = w.inputProblem? shape b := by
  funext ⟨input, held⟩
  cases held with
  | none => rfl
  | some s =>
    simp only [inputProblem?, Option.bind_some, h.block?]
    cases w.block? s <;> rfl

/-- **The findings stay the same** if those about the fields do. -/
theorem check_refilled (registry : Registry) (hw : ∀ b ∈ w.blocks.toList, w.HoldsValues b)
    (hfields : ∀ r b shape, w.block? r = some b → registry.shape? b.kind = some shape →
      ((fill r b).entries.filterMap fun field => checkField? w' shape b field.1 field.2) =
        b.fields.entries.filterMap fun field => checkField? w shape b field.1 field.2) :
    w'.check registry = w.check registry := by
  have hproblems : ∀ r b, w.block? r = some b →
      w'.problems registry { b with fields := fill r b } = w.problems registry b := by
    intro r b hb
    unfold problems
    cases hshape : registry.shape? b.kind with
    | none => rfl
    | some shape =>
      simp only [inputProblem?_refilled h, ← hfields r b shape hb hshape]
      rfl
  have hblocks : w'.blocks.toList.map (w'.problems registry) =
      w.blocks.toList.map (w.problems registry) := by
    refine List.ext_getElem? fun r => ?_
    have hr : w'.blocks[r]? = w.blocks[r]?.map fun b => { b with fields := fill r b } := h.block? r
    rw [List.getElem?_map, List.getElem?_map, Array.getElem?_toList, Array.getElem?_toList, hr]
    cases hb : w.blocks[r]? with
    | none => rfl
    | some b => exact congrArg some (hproblems r b hb)
  have hw' : ∀ b ∈ w'.blocks.toList, w'.HoldsValues b := by
    intro b hb input s hs
    obtain ⟨r, hr⟩ := List.mem_iff_getElem?.1 hb
    rw [Array.getElem?_toList] at hr
    obtain ⟨c, hc, rfl⟩ := Option.map_eq_some_iff.1 ((h.block? r).symm.trans hr)
    rw [h.block?, Option.isSome_map]
    exact hw c (mem_blocks_of_block? hc) input s hs
  have hdiagnostics : w'.diagnostics registry = w.diagnostics registry := by
    unfold diagnostics
    rw [List.flatMap_def, hblocks, ← List.flatMap_def]
  rw [check_eq registry hw, check_eq registry hw', hdiagnostics]

end Workspace

end SceneScript
