import SceneScript.Proofs.Findings
import SceneScript.Proofs.Lockstep
import SceneScript.Proofs.Parsed

/-!
# Checking sockets while generating

If sockets are checked while a script is generated, values that an input does not accept are left
out. Checking a workspace beforehand reports the same values. So a script for which sockets are
checked is the script of a workspace without all that was reported.

* `Diagnostics.refuses`: a warning is about the value in an input of a block.
* `Workspace.pruned`: the workspace without the values that warnings are about.
* **`strict_script_eq_pruned_script`**: checking sockets while generating is pruning before it.
-/

namespace SceneScript

/-- A warning says that an input of a block does not accept the value in it. -/
def Diagnostics.refuses (findings : Diagnostics) (b : Block) (input : String) : Bool :=
  SocketTag.all.any fun tag =>
    findings.warnings.contains (Problem.unacceptedTag b.id b.kind input tag).diagnostic

/-- The block without the values that a warning is about. -/
def Block.pruned (findings : Diagnostics) (b : Block) : Block :=
  { b with values := b.values.mapEntries fun input held =>
      if findings.refuses b input then none else held }

/-- The workspace without the values that warnings are about. -/
def Workspace.pruned (findings : Diagnostics) (w : Workspace) : Workspace :=
  { w with blocks := w.blocks.map (Block.pruned findings) }

/-! ## What a warning says -/

namespace SocketTag

theorem mem_all (tag : SocketTag) : tag ∈ all := by cases tag <;> decide

theorem eq_of_name_suffix : ∀ tag tag' : SocketTag, tag.name.toList <:+ tag'.name.toList →
    tag = tag' := by
  intro tag tag'
  cases tag <;> cases tag' <;> decide

end SocketTag

/-- A warning about a block says which input it is about, and which tag that input refuses. -/
theorem Problem.unacceptedTag_inj {block kind input input' : String} {tag tag' : SocketTag}
    (h : (unacceptedTag block kind input tag).diagnostic =
      (unacceptedTag block kind input' tag').diagnostic) : input = input' ∧ tag = tag' := by
  have hmessage := congrArg (fun d : Diagnostic => d.message.toList) h
  simp only [diagnostic, String.toList_append] at hmessage
  -- The name of a tag is not the end of another one, so the ends of the two messages are the same.
  have htag : tag = tag' := by
    have hsuffix := List.suffix_append
      ("input '".toList ++ input.toList ++ "' of '".toList ++ kind.toList ++
        "' does not accept ".toList) tag.name.toList
    rw [hmessage] at hsuffix
    rcases List.suffix_or_suffix_of_suffix hsuffix (List.suffix_append _ _) with h | h
    · exact SocketTag.eq_of_name_suffix tag tag' h
    · exact (SocketTag.eq_of_name_suffix tag' tag h).symm
  subst htag
  simp only [List.append_assoc, List.append_cancel_left_eq, List.append_cancel_right_eq] at hmessage
  exact ⟨String.toList_inj.1 hmessage, rfl⟩

theorem Diagnostics.refuses_iff {findings : Diagnostics} {b : Block} {input : String} :
    findings.refuses b input = true ↔
      ∃ tag, (Problem.unacceptedTag b.id b.kind input tag).diagnostic ∈ findings.warnings := by
  simp only [refuses, List.any_eq_true, List.contains_iff_mem]
  exact ⟨fun ⟨tag, _, h⟩ => ⟨tag, h⟩, fun ⟨tag, h⟩ => ⟨tag, tag.mem_all, h⟩⟩

namespace Workspace

variable {w : Workspace} {r s : Ref} {b c child : Block} {input : String}

theorem WellLinked.eq_of_id {catalog : Catalog} (hw : w.WellLinked catalog)
    (hb : b ∈ w.blocks.toList) (hc : c ∈ w.blocks.toList) (hid : b.id = c.id) : b = c :=
  List.inj_on_of_nodup_map hw.distinct_ids hb hc hid

variable {catalog : Catalog} (hw : w.WellLinked catalog) {registry : Registry}
  {findings : Diagnostics} (hfindings : findings.warnings = w.diagnostics registry)
  (options : ScriptOptions)

include hw hfindings

/-- **The values that warnings are about** are those that are refused while a script is
generated. -/
theorem refuses_findings_eq (hb : w.block? r = some b) (hinput : b.valueInput input = some s)
    (hchild : w.block? s = some child) :
    findings.refuses b input =
      ({ workspace := w, registry, options } : Program).refuses b input child := by
  have hmem := mem_blocks_of_block? hb
  -- Both sides ask for a problem about the input, which only the block of this id can have.
  have hleft : findings.refuses b input = true ↔ ∃ shape, registry.shape? b.kind = some shape ∧
      (checkInput? shape b input child).isSome := by
    rw [Diagnostics.refuses_iff, hfindings]
    constructor
    · rintro ⟨tag, hwarning⟩
      obtain ⟨problem, hproblem, hdiagnostic⟩ := List.mem_map.1 hwarning
      obtain ⟨c, hc, hproblem⟩ := List.mem_flatMap.1 hproblem
      rcases mem_problems_cases hproblem with ⟨shape, input', s', child', hshape, hs', hchild', h⟩ |
        ⟨_, _, _, h⟩
      · obtain ⟨tag', -, rfl⟩ := eq_of_checkInput? h
        have hid : c.id = b.id := Option.some.inj (congrArg Diagnostic.block hdiagnostic)
        obtain rfl := hw.eq_of_id hc hmem hid
        obtain ⟨rfl, rfl⟩ := Problem.unacceptedTag_inj hdiagnostic
        rw [hs'] at hinput
        cases hinput
        rw [hchild'] at hchild
        cases hchild
        exact ⟨shape, hshape, by rw [h]; rfl⟩
      · have hcode := congrArg Diagnostic.code hdiagnostic
        rcases eq_of_checkField? h with ⟨id, rfl⟩ | ⟨tag', declared, rfl⟩
        · cases hcode
        · cases hcode
    · rintro ⟨shape, hshape, hproblem⟩
      obtain ⟨problem, hproblem⟩ := Option.isSome_iff_exists.1 hproblem
      obtain ⟨tag, -, rfl⟩ := eq_of_checkInput? hproblem
      refine ⟨tag, List.mem_map.2 ⟨_, List.mem_flatMap.2 ⟨b, hmem, ?_⟩, rfl⟩⟩
      exact mem_problems_of_checkInput? hshape hinput hchild hproblem
  have hright : ({ workspace := w, registry, options } : Program).refuses b input child = true ↔
      ∃ shape, registry.shape? b.kind = some shape ∧
        (checkInput? shape b input child).isSome := by
    unfold Program.refuses Program.definition? Registry.shape? checkInput?
    cases registry.get? b.kind with
    | none => simp
    | some d =>
      cases haccepted : d.shape.accepted? input <;> cases houtput : child.output <;>
        simp [haccepted]
  exact Bool.eq_iff_iff.2 (hleft.trans hright.symm)

end Workspace

/-! ## Pruning -/

namespace Block

variable {findings : Diagnostics} {b : Block} {input : String}

theorem valueInput_pruned : (b.pruned findings).valueInput input =
    if findings.refuses b input then none else b.valueInput input := by
  unfold valueInput pruned
  rw [Dict.get?_mapEntries]
  cases b.values.get? input with
  | none => simp
  | some held => split_ifs <;> simp

theorem pruned_eq_self (h : ∀ input, findings.refuses b input = false) :
    b.pruned findings = b := by
  have hvalues : (b.values.mapEntries fun input held =>
      if findings.refuses b input then none else held) = b.values := by
    ext name : 1
    rw [Dict.get?_mapEntries]
    simp [h]
  unfold pruned
  rw [hvalues]

end Block

theorem Workspace.block?_pruned (findings : Diagnostics) (w : Workspace) (r : Ref) :
    (w.pruned findings).block? r = (w.block? r).map (Block.pruned findings) := by
  simp [block?, pruned]

/-! ## Programs that are the same -/

theorem lockstep_same {α : Type} (g : Gen α) : Lockstep Eq Eq g g := by
  rintro s _ rfl
  refine ⟨?_, rfl⟩
  generalize (g.run.run s).1 = result
  cases result with
  | ok a => exact rfl
  | error e => exact rfl

/-! ## Strict and lenient programs -/

section Programs

variable {catalog : Catalog} {w : Workspace} (hw : w.WellLinked catalog) {registry : Registry}
  {findings : Diagnostics} (hfindings : findings.warnings = w.diagnostics registry)
  (options : ScriptOptions)

include hw hfindings

/-- A value is left out while generating if and only if it was pruned before. -/
theorem lockstep_valueCode_pruned {inner inner' : Ref → Gen Fragment}
    (hinner : InnerAlike (.sameUpTo Eq) inner inner') {r : Ref} {b : Block}
    (hb : w.block? r = some b) (input : String) (outer : Precedence) :
    Lockstep Eq (Option.Rel Eq)
      (({ workspace := w, registry, options := { options with checkSockets := true } } :
        Program).valueCode inner b input outer)
      (({ workspace := w.pruned findings, registry,
          options := { options with checkSockets := false } } :
        Program).valueCode inner' (b.pruned findings) input outer) := by
  unfold Program.valueCode
  rw [Block.valueInput_pruned]
  cases hinput : b.valueInput input with
  | none =>
    rw [ite_self]
    exact lockstep_pure .none
  | some s =>
    have hheld := hw.holdsValues b (Workspace.mem_blocks_of_block? hb) input s hinput
    obtain ⟨child, hchild⟩ := Option.isSome_iff_exists.1 hheld
    have hrefuses := Workspace.refuses_findings_eq hw hfindings
      { options with checkSockets := true } hb hinput hchild
    simp only [Program.block, hchild, pure_bind, ← hrefuses]
    cases findings.refuses b input with
    | true => exact lockstep_pure .none
    | false =>
      simp only [Bool.and_false, Bool.false_and, Bool.false_eq_true, if_false,
        Workspace.block?_pruned, hchild, Option.map_some, pure_bind]
      exact Program.lockstep_innerValue (Likeness.regular_sameUpTo Eq options.indent) hinner s outer

/-- Generating with a check of sockets and generating from what was pruned go side by side. -/
theorem alike_pruned :
    ({ workspace := w, registry, options := { options with checkSockets := true } } :
        Program).Alike (.sameUpTo Eq)
      { workspace := w.pruned findings, registry,
        options := { options with checkSockets := false } } where
  regular := Likeness.regular_sameUpTo Eq _
  indent := rfl
  scope := rfl
  top := rfl
  size := by simp [Workspace.size, Workspace.pruned]
  block r := by
    dsimp only
    rw [Workspace.block?_pruned]
    cases hb : w.block? r with
    | none => exact .none
    | some b =>
      refine .some ?_
      exact {
        id := rfl
        kind := rfl
        enabled := rfl
        output := rfl
        next := rfl
        rule := by
          unfold Program.definition?
          change Option.Rel _ (registry.get? b.kind) (registry.get? b.kind)
          cases registry.get? b.kind with
          | none => exact .none
          | some d => exact .some d.rule.alike_self
        statements := fun _ => rfl
        value := fun hinner input outer =>
          lockstep_valueCode_pruned hw hfindings options hinner hb input outer
        identifier := fun field => lockstep_same _
        text := fun _ => rfl
        number := fun _ => rfl
        call := fun args args' hargs => by
          have heq : args = args' := (congrFun₂ List.forall₂_eq_eq_eq args args').mp hargs
          rw [heq]
          rfl }

end Programs

theorem Workspace.pruned_eq_self {findings : Diagnostics} (w : Workspace)
    (h : ∀ d ∈ findings.warnings, d.code ≠ 300) : w.pruned findings = w := by
  have hrefuses : ∀ (b : Block) (input : String), findings.refuses b input = false := by
    intro b input
    rw [← Bool.not_eq_true, Diagnostics.refuses_iff]
    rintro ⟨tag, htag⟩
    exact h _ htag rfl
  have hblocks : w.blocks.map (Block.pruned findings) = w.blocks := by
    conv_rhs => rw [← Array.map_id w.blocks]
    exact Array.map_congr_left fun b _ => Block.pruned_eq_self (hrefuses b)
  unfold pruned
  rw [hblocks]

/-- **Checking sockets while generating is pruning before it.** The script for which sockets are
checked is the script, without such a check, of the workspace that lacks the values warned about. If
there is no such warning, it does not matter whether sockets are checked. -/
theorem strict_script_eq_pruned_script (registry : Registry) (options : ScriptOptions)
    (text : String) (w : Workspace) (h : (parse registry.shape? text).workspace = some w) :
    ∃ findings script, w.check registry = .ok findings ∧
      ({ workspace := w, registry, options := { options with checkSockets := true } } :
        Program).script = .ok script ∧
      ({ workspace := w.pruned findings, registry,
         options := { options with checkSockets := false } } : Program).script = .ok script ∧
      ((∀ d ∈ findings.warnings, d.code ≠ 300) →
        ({ workspace := w, registry, options := { options with checkSockets := false } } :
          Program).script = .ok script) := by
  have hw := wellLinked_of_parse h
  obtain ⟨script, hscript⟩ := exists_script_of_parse h { options with checkSockets := true }
  obtain ⟨findings, hcheck, hfindings⟩ : ∃ findings, w.check registry = .ok findings ∧
      findings.warnings = w.diagnostics registry :=
    ⟨_, Workspace.check_eq registry hw.holdsValues, rfl⟩
  have hpruned := eq_of_sameOutcome (alike_pruned hw hfindings options).script
  refine ⟨findings, script, hcheck, hscript, hpruned.symm.trans hscript, fun hnone => ?_⟩
  rw [Workspace.pruned_eq_self w hnone] at hpruned
  exact hpruned.symm.trans hscript

/-- A text of two statements: what is to be created is no shape but a light, so nothing is created,
and the mass that is set is a place. -/
def mismatchText : String :=
  "[[0, [[\"create_shape\", \"made\", true, \x7b\"VAR\": \"s\"\x7d, \x7b\"SHAPE\": " ++
    "[[\"lightbulb\"]], \"COORDS\": [[\"coords\"]]\x7d, [[\"set_mass\", \"heavy\", true, " ++
    "\x7b\"VAR\": \"s\"\x7d, \x7b\"MASS\": [[\"coords\"]]\x7d]]]]], [[\"s\", \"ball\", \"SHAPE\"]]]"

theorem strict_script_mismatchText :
    ∃ w findings, (parse Registry.standard.shape? mismatchText).workspace = some w ∧
      w.check .standard = .ok findings ∧
      findings.warnings.map (fun d => (d.block, d.code)) =
        [(some "made", 300), (some "heavy", 300)] ∧
      ({ workspace := w.pruned findings, registry := .standard,
         options := { checkSockets := false } } : Program).script =
        .ok "threeD.setMass(ball, 1);" ∧
      ({ workspace := w, registry := .standard, options := { checkSockets := false } } :
        Program).script ≠ .ok "threeD.setMass(ball, 1);" := by
  have hchars : mismatchText.toList = _ :=
    Json.toList_append_of (Json.toList_append_of String.toList_ofList String.toList_ofList)
      String.toList_ofList
  have hsome : ((parse Registry.standard.shape? mismatchText).workspace.map fun w =>
      ((w.check .standard).toOption.map fun findings =>
          findings.warnings.map fun d => (d.block, d.code),
        ({ workspace := w, registry := .standard, options := { checkSockets := true } } :
          Program).script.toOption,
        ({ workspace := w, registry := .standard, options := { checkSockets := false } } :
          Program).script.toOption == some "threeD.setMass(ball, 1);")) =
      some (some [(some "made", 300), (some "heavy", 300)], some "threeD.setMass(ball, 1);",
        false) := by
    rw [parse, Document.ofText, Json.decodeText, Json.Draft.ofText_of_toList hchars]
    decide +kernel
  obtain ⟨w, hw, hvalues⟩ := Option.map_eq_some_iff.1 hsome
  obtain ⟨hwarnings, hvalues⟩ := Prod.mk.inj hvalues
  obtain ⟨hstrict, hlenient⟩ := Prod.mk.inj hvalues
  obtain ⟨findings, script, hcheck, hscript, hpruned, -⟩ :=
    strict_script_eq_pruned_script Registry.standard {} mismatchText w hw
  rw [hcheck] at hwarnings
  have hscript' : script = "threeD.setMass(ball, 1);" := by
    rw [hscript] at hstrict
    exact Option.some.inj hstrict
  subst hscript'
  refine ⟨w, findings, hw, hcheck, Option.some.inj hwarnings, hpruned, fun h => ?_⟩
  rw [h] at hlenient
  exact absurd hlenient (by decide)

end SceneScript
