import SceneScript.Compile
import SceneScript.Proofs.Findings
import SceneScript.Proofs.Parsed

/-!
# Compiling and checking agree

Linking a text reports errors or nothing, and checking the workspace that it yields reports warnings
only. So there is a script exactly if no error is counted, and what compiling reports is what
checking reports.

* `isSome_workspace_iff`: a text has a workspace exactly if no error is counted.
* `findings_of_parse`: checking a workspace that is parsed does not fail and finds warnings only.
* `success_compile`, `diagnostics_compile`: when a text compiles, and what is reported.
* **`compile_agrees_with_check`**: what the outcome of compiling says, whatever the options.
-/

namespace SceneScript

/-- A text has a workspace exactly if no error is counted. -/
theorem isSome_workspace_iff (catalog : Catalog) (text : String) :
    (parse catalog text).workspace.isSome ↔ (parse catalog text).diagnostics.totalErrors = 0 := by
  cases htext : Document.ofText text with
  | ok document =>
    rw [parse_of_ok htext, link_eq]
    dsimp only
    split_ifs with herrors
    · exact iff_of_true rfl herrors
    · exact iff_of_false nofun herrors
  | error cause =>
    rw [parse_of_error htext]
    exact iff_of_false nofun nofun

/-! ## Workspaces that are parsed -/

section Parsed

variable {text : String} {w : Workspace} (h : (parse standardCatalog text).workspace = some w)

include h

/-- The script that compiling yields is the one that is generated. -/
theorem script_eq_scriptOf (options : ScriptOptions) :
    ({ workspace := w, registry := .standard, options } : Program).script =
      .ok (scriptOf options w) := by
  obtain ⟨script, hscript⟩ := exists_script_of_parse h options
  rw [scriptOf, hscript]

/-- The findings that are reported are those of the check, and all of them are warnings. -/
theorem findings_of_parse : w.check .standard = .ok (findings w) ∧
    findings w = { warnings := w.diagnostics .standard
                   totalWarnings := (w.diagnostics .standard).length } := by
  rw [findings, Workspace.check_eq .standard (wellLinked_of_parse h).holdsValues]
  exact ⟨rfl, rfl⟩

theorem check_of_parse : check text = .empty ++ findings w := by
  have hlinked : (parse standardCatalog text).diagnostics = .empty := diagnostics_of_parse h
  rw [check, h, hlinked]

theorem totalErrors_check_of_parse : (check text).totalErrors = 0 := by
  have hwarnings : ∀ d ∈ w.diagnostics .standard, d.severity = .warning :=
    fun _ => Workspace.severity_of_mem_diagnostics
  rw [check_of_parse h, (findings_of_parse h).2]
  show (Diagnostics.append _ _).totalErrors = 0
  rw [Diagnostics.append, Diagnostics.stored, List.nil_append,
    Diagnostics.pushAll_warnings _ _ hwarnings]
  rfl

end Parsed

/-! ## Outcomes -/

namespace Compilation

variable (c : Compilation)

theorem isSome_hash : c.hash.isSome = c.success := Option.isSome_map

theorem hash_of_script {script : String} (h : c.script = some script) :
    c.hash = some (Digest.hex script) := by
  rw [hash, h, Option.map_some]

theorem result_eq_ok_iff (script : String) :
    c.result = .ok script ↔ c.success = true ∧ c.script = some script := by
  unfold result success
  cases c.script <;> simp

end Compilation

section Outcomes

variable (options : Options) (text : String)

/-- A text compiles if and only if it has a workspace. -/
theorem success_compile :
    (compile options text).success = (parse standardCatalog text).workspace.isSome := by
  rw [compile]
  cases (parse standardCatalog text).workspace <;> rfl

/-- A script that compiling yields is generated from the workspace of the text. -/
theorem exists_of_script_compile {script : String}
    (h : (compile options text).script = some script) :
    ∃ w, (parse standardCatalog text).workspace = some w ∧
      ({ workspace := w, registry := .standard, options := options.script } : Program).script =
        .ok script := by
  rw [compile] at h
  cases hw : (parse standardCatalog text).workspace with
  | none =>
    rw [hw] at h
    cases h
  | some w =>
    rw [hw] at h
    cases h
    exact ⟨w, rfl, script_eq_scriptOf hw options.script⟩

/-- Checking finds errors if and only if there is no workspace. -/
theorem totalErrors_check_eq_zero_iff :
    (check text).totalErrors = 0 ↔ (parse standardCatalog text).workspace.isSome := by
  cases hw : (parse standardCatalog text).workspace with
  | none => rw [check, hw, ← isSome_workspace_iff, hw]
  | some w => exact iff_of_true (totalErrors_check_of_parse hw) rfl

/-- What is reported is what checking reports, unless a text compiles and is not to be checked. -/
theorem diagnostics_compile : (compile options text).diagnostics =
    if (compile options text).success && !options.validate then .empty else check text := by
  rw [success_compile]
  cases hw : (parse standardCatalog text).workspace with
  | none =>
    rw [compile, check, hw]
    rfl
  | some w =>
    have hlinked : (parse standardCatalog text).diagnostics = .empty := diagnostics_of_parse hw
    rw [compile, hw, check_of_parse hw, hlinked]
    cases options.validate <;> rfl

end Outcomes

/-- **Compiling and checking agree, and options never decide whether there is a script.** Success, a
script, its digest and the absence of errors are all the same, and a script is the one that is
generated from the workspace. What is reported is what checking reports, or nothing if a text
compiles and is not to be checked. -/
theorem compile_agrees_with_check (options : Options) (text : String) :
    ((compile options text).success = true ↔ (compile options text).script.isSome) ∧
    ((compile options text).success = true ↔ (compile options text).hash.isSome) ∧
    ((compile options text).success = true ↔
      (compile options text).diagnostics.totalErrors = 0) ∧
    (∀ script, (compile options text).script = some script →
      (compile options text).hash = some (Digest.hex script) ∧
      ∃ w, (parse standardCatalog text).workspace = some w ∧
        ({ workspace := w, registry := .standard, options := options.script } : Program).script =
          .ok script) ∧
    ((compile options text).success = false ∨ options.validate = true →
      (compile options text).diagnostics = check text) ∧
    ((compile options text).success = true → options.validate = false →
      (compile options text).diagnostics = .empty) ∧
    (∀ script, (compile options text).result = .ok script ↔
      (compile options text).success = true ∧ (compile options text).script = some script) ∧
    ∀ other : Options, (compile other text).success = (compile options text).success ∧
      (other.validate = options.validate →
        (compile other text).diagnostics = (compile options text).diagnostics) := by
  have hreported := diagnostics_compile options text
  have hsame : ∀ other : Options, (compile other text).success = (compile options text).success :=
    fun other => (success_compile other text).trans (success_compile options text).symm
  refine ⟨Iff.rfl, by rw [Compilation.isSome_hash], ?_,
    fun _ h => ⟨Compilation.hash_of_script _ h, exists_of_script_compile options text h⟩,
    fun h => ?_, fun hsuccess hvalidate => ?_, Compilation.result_eq_ok_iff _,
    fun other => ⟨hsame other, fun hvalidate => ?_⟩⟩
  · have hchecked := totalErrors_check_eq_zero_iff text
    rw [← success_compile options] at hchecked
    rw [hreported]
    split_ifs with hunchecked
    · exact iff_of_true (Bool.and_eq_true_iff.1 hunchecked).1 rfl
    · exact hchecked.symm
  · rw [hreported, if_neg]
    rcases h with h | h <;> simp [h]
  · rw [hreported, if_pos]
    simp [hsuccess, hvalidate]
  · rw [hreported, diagnostics_compile, hsame, hvalidate]

end SceneScript
