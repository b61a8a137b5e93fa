import SceneScript.Proofs.Diagnostics
import SceneScript.Proofs.Faithful
import SceneScript.SocketCheck

/-!
# What checking finds

Checking goes through the blocks of a workspace in order and reports all that it finds as warnings.
It fails only where an input holds a reference that points nowhere.

* `Workspace.problems`: what there is to find about a block.
* **`Workspace.check_eq`**: the findings about a workspace are those about its blocks, in order.
* `Block.bare`, `Workspace.check_congr`: how blocks are linked makes no difference to checking.
-/

namespace SceneScript

/-! ## Collections of warnings -/

namespace Diagnostics

/-- Warnings are kept in order, all of them. -/
theorem pushAll_warnings (ds : List Diagnostic) (c : Diagnostics)
    (h : ∀ d ∈ ds, d.severity = .warning) :
    c.pushAll ds = { c with
      warnings := c.warnings ++ ds
      totalWarnings := c.totalWarnings + ds.length } := by
  have herrors : errorsOf ds = [] := List.filter_eq_nil_iff.2 fun d hd => by simp [h d hd]
  have hwarnings : warningsOf ds = ds := List.filter_eq_self.2 fun d hd => by simp [h d hd]
  rw [pushAll_eq, herrors, hwarnings]
  simp

end Diagnostics

/-! ## Problems of a block -/

namespace Workspace

variable (w : Workspace)

/-- What there is to find about an input of a block; nothing, if it holds no block. -/
def inputProblem? (shape : Shape) (b : Block) (input : String × Option Ref) : Option Problem :=
  (input.2.bind w.block?).bind (checkInput? shape b input.1)

/-- What there is to find about a block: first about its inputs, then about its fields. -/
def problems (registry : Registry) (b : Block) : List Problem :=
  match registry.shape? b.kind with
  | none => []
  | some shape =>
    b.values.entries.filterMap (w.inputProblem? shape b) ++
      b.fields.entries.filterMap fun field => checkField? w shape b field.1 field.2

/-- The values of a block are all there. -/
def HoldsValues (b : Block) : Prop :=
  ∀ input s, b.valueInput input = some s → (w.block? s).isSome

variable {w}

theorem mem_blocks_of_block? {r : Ref} {b : Block} (h : w.block? r = some b) :
    b ∈ w.blocks.toList :=
  Array.mem_toList_iff.2 (Array.mem_of_getElem? h)

theorem WellLinked.holdsValues {catalog : Catalog} (hw : w.WellLinked catalog) :
    ∀ b ∈ w.blocks.toList, w.HoldsValues b := by
  intro b hb input s hs
  obtain ⟨r, hr⟩ := List.mem_iff_getElem?.1 hb
  rw [Array.getElem?_toList] at hr
  obtain ⟨c, hc, -⟩ := hw.expression_in_value r b input s hr hs
  rw [hc]
  rfl

theorem checkInputs_eq (shape : Shape) (b : Block) : ∀ {inputs : List (String × Option Ref)},
    (∀ input ∈ inputs, ∀ s, input.2 = some s → (w.block? s).isSome) →
      w.checkInputs shape b inputs = .ok (inputs.filterMap (w.inputProblem? shape b))
  | [], _ => rfl
  | (input, held) :: rest, h => by
    rw [List.forall_mem_cons] at h
    have hrest := checkInputs_eq shape b h.2
    cases held with
    | none =>
      rw [checkInputs, hrest, List.filterMap_cons]
      rfl
    | some s =>
      obtain ⟨child, hchild⟩ := Option.isSome_iff_exists.1 (h.1 s rfl)
      have hproblem :
          w.inputProblem? shape b (input, some s) = checkInput? shape b input child := by
        simp [inputProblem?, hchild]
      simp only [checkInputs, hchild, hrest, List.filterMap_cons, hproblem]
      cases checkInput? shape b input child <;> rfl

theorem checkBlock_eq (registry : Registry) {b : Block} (hb : w.HoldsValues b) :
    w.checkBlock registry b = .ok (w.problems registry b) := by
  unfold checkBlock problems
  cases registry.shape? b.kind with
  | none => rfl
  | some shape =>
    have hheld : ∀ input ∈ b.values.entries, ∀ s, input.2 = some s → (w.block? s).isSome := by
      intro input hinput s hs
      refine hb input.1 s ?_
      rw [Block.valueInput, Dict.get?_eq_some_iff.2 hinput, hs, Option.join_some]
    simp only [checkInputs_eq shape b hheld]
    rfl

/-! ## All problems -/

theorem eq_of_checkInput? {shape : Shape} {b child : Block} {input : String} {problem : Problem}
    (h : checkInput? shape b input child = some problem) :
    ∃ tag, child.output = some tag ∧ problem = .unacceptedTag b.id b.kind input tag := by
  unfold checkInput? at h
  split at h
  · next accepted tag _ htag =>
    split_ifs at h
    cases h
    exact ⟨tag, htag, rfl⟩
  · cases h

theorem eq_of_checkField? {shape : Shape} {b : Block} {field : String} {value : FieldValue}
    {problem : Problem} (h : checkField? w shape b field value = some problem) :
    (∃ id, problem = .undeclaredVariable b.id field id) ∨
      ∃ tag declared, problem = .wrongVariable b.id field tag declared := by
  unfold checkField? at h
  split at h
  · split at h
    · split at h
      · cases h
        exact .inl ⟨_, rfl⟩
      · split_ifs at h
        cases h
        exact .inr ⟨_, _, rfl⟩
    · cases h
  · cases h

/-- A problem of a block is about a value that stands in one of its inputs, or about a field. -/
theorem mem_problems_cases {registry : Registry} {b : Block} {problem : Problem}
    (h : problem ∈ w.problems registry b) :
    (∃ shape input s child, registry.shape? b.kind = some shape ∧ b.valueInput input = some s ∧
      w.block? s = some child ∧ checkInput? shape b input child = some problem) ∨
    ∃ shape field value, checkField? w shape b field value = some problem := by
  unfold problems at h
  split at h
  · cases h
  · next shape hshape =>
    rcases List.mem_append.1 h with h | h
    · obtain ⟨⟨input, held⟩, hinput, hproblem⟩ := List.mem_filterMap.1 h
      obtain ⟨child, hheld, hproblem⟩ := Option.bind_eq_some_iff.1 hproblem
      obtain ⟨s, hs, hchild⟩ := Option.bind_eq_some_iff.1 hheld
      have hvalue : b.valueInput input = some s := by
        rw [Block.valueInput, Dict.get?_eq_some_iff.2 hinput, Option.join_some]
        exact hs
      exact .inl ⟨shape, input, s, child, hshape, hvalue, hchild, hproblem⟩
    · obtain ⟨field, -, hproblem⟩ := List.mem_filterMap.1 h
      exact .inr ⟨shape, field.1, field.2, hproblem⟩

theorem mem_problems_of_checkInput? {registry : Registry} {b child : Block} {shape : Shape}
    {input : String} {s : Ref} {problem : Problem} (hshape : registry.shape? b.kind = some shape)
    (hinput : b.valueInput input = some s) (hchild : w.block? s = some child)
    (h : checkInput? shape b input child = some problem) : problem ∈ w.problems registry b := by
  have hentry : (input, some s) ∈ b.values.entries :=
    Dict.get?_eq_some_iff.1 (Option.join_eq_some_iff.1 hinput)
  have hproblem : w.inputProblem? shape b (input, some s) = some problem := by
    simp [inputProblem?, hchild, h]
  unfold problems
  rw [hshape]
  exact List.mem_append_left _ (List.mem_filterMap.2 ⟨_, hentry, hproblem⟩)

theorem mem_problems_of_checkField? {registry : Registry} {b : Block} {shape : Shape}
    {field : String} {value : FieldValue} {problem : Problem}
    (hshape : registry.shape? b.kind = some shape) (hfield : b.fields.get? field = some value)
    (h : checkField? w shape b field value = some problem) : problem ∈ w.problems registry b := by
  unfold problems
  rw [hshape]
  exact List.mem_append_right _ (List.mem_filterMap.2 ⟨_, Dict.get?_eq_some_iff.1 hfield, h⟩)

theorem severity_of_mem_problems {registry : Registry} {b : Block} {problem : Problem}
    (h : problem ∈ w.problems registry b) : problem.diagnostic.severity = .warning := by
  rcases mem_problems_cases h with ⟨_, _, _, _, -, -, -, h⟩ | ⟨_, _, _, h⟩
  · obtain ⟨tag, -, rfl⟩ := eq_of_checkInput? h
    rfl
  · rcases eq_of_checkField? h with ⟨id, rfl⟩ | ⟨tag, declared, rfl⟩
    · rfl
    · rfl

/-- The findings about a workspace, in the order of its blocks. -/
def diagnostics (w : Workspace) (registry : Registry) : List Diagnostic :=
  (w.blocks.toList.flatMap (w.problems registry)).map Problem.diagnostic

theorem severity_of_mem_diagnostics {registry : Registry} {d : Diagnostic}
    (h : d ∈ w.diagnostics registry) : d.severity = .warning := by
  obtain ⟨problem, hproblem, rfl⟩ := List.mem_map.1 h
  obtain ⟨b, -, hb⟩ := List.mem_flatMap.1 hproblem
  exact severity_of_mem_problems hb

/-- **The findings about a workspace** are those about its blocks, and all of them are warnings. -/
theorem check_eq (registry : Registry) (hw : ∀ b ∈ w.blocks.toList, w.HoldsValues b) :
    w.check registry = .ok { warnings := w.diagnostics registry
                             totalWarnings := (w.diagnostics registry).length } := by
  have hproblems : w.blocks.toList.mapM (w.checkBlock registry) =
      pure (w.blocks.toList.map (w.problems registry)) :=
    mapM_eq_pure_map fun b hb => checkBlock_eq registry (hw b hb)
  have hwarnings : ∀ d ∈ w.diagnostics registry, d.severity = .warning :=
    fun _ => severity_of_mem_diagnostics
  have hpush := Diagnostics.pushAll_warnings _ Diagnostics.empty hwarnings
  rw [check, hproblems, pure_bind, ← List.flatMap_def]
  refine congrArg Except.ok (hpush.trans ?_)
  simp [Diagnostics.empty]

/-- What there is to find about a field is among the findings. -/
theorem WellLinked.mem_warnings_of_checkField? {registry : Registry}
    (hw : w.WellLinked registry.shape?) {findings : Diagnostics}
    (hcheck : w.check registry = .ok findings) {r : Ref} {b : Block} (hb : w.block? r = some b)
    {shape : Shape} (hshape : registry.shape? b.kind = some shape) {field : String}
    {value : FieldValue} (hfield : b.fields.get? field = some value) {problem : Problem}
    (h : checkField? w shape b field value = some problem) :
    problem.diagnostic ∈ findings.warnings := by
  rw [check_eq registry hw.holdsValues] at hcheck
  cases hcheck
  exact List.mem_map_of_mem (List.mem_flatMap.2
    ⟨b, mem_blocks_of_block? hb, mem_problems_of_checkField? hshape hfield h⟩)

end Workspace

/-! ## Blocks without their links -/

/-- The block as checking sees it: how it hangs in the program does not matter. -/
def Block.bare (b : Block) : Block := { b with linkage := freeLinkage b.output, parent := none }

@[simp] theorem Block.output_bare (b : Block) : b.bare.output = b.output := by
  unfold bare output freeLinkage
  cases b.linkage <;> rfl

namespace Workspace

/-- The workspace as checking sees it. -/
def bare (w : Workspace) : Workspace := { w with blocks := w.blocks.map Block.bare, top := [] }

variable {w w' : Workspace}

theorem problems_bare (registry : Registry) (b : Block) :
    w.bare.problems registry b.bare = w.problems registry b := by
  have hinput : ∀ shape, w.bare.inputProblem? shape b.bare = w.inputProblem? shape b := by
    intro shape
    funext input
    have hchild : input.2.bind w.bare.block? = (input.2.bind w.block?).map Block.bare := by
      cases input.2 <;> simp [bare, block?]
    unfold inputProblem?
    rw [hchild]
    cases input.2.bind w.block? with
    | none => rfl
    | some child =>
      unfold checkInput?
      rw [Option.map_some, Option.bind_some, Option.bind_some, Block.output_bare]
      rfl
  have hkind : b.bare.kind = b.kind := rfl
  have hvalues : b.bare.values = b.values := rfl
  unfold problems
  simp only [hinput, hkind, hvalues]
  rfl

theorem diagnostics_bare (registry : Registry) :
    w.bare.diagnostics registry = w.diagnostics registry := by
  have hblocks : w.bare.blocks.toList = w.blocks.toList.map Block.bare := Array.toList_map
  have hproblems : w.bare.problems registry ∘ Block.bare = w.problems registry := by
    funext b
    exact problems_bare registry b
  unfold diagnostics
  rw [hblocks, List.flatMap_map]
  exact congrArg (fun f => (w.blocks.toList.flatMap f).map Problem.diagnostic) hproblems

/-- Checking does not see how blocks hang in the program. -/
theorem check_congr (registry : Registry) (hw : ∀ b ∈ w.blocks.toList, w.HoldsValues b)
    (hw' : ∀ b ∈ w'.blocks.toList, w'.HoldsValues b) (h : w.bare = w'.bare) :
    w.check registry = w'.check registry := by
  rw [check_eq registry hw, check_eq registry hw', ← diagnostics_bare, h, diagnostics_bare]

end Workspace

end SceneScript
