import SceneScript.Proofs.Disabling
import SceneScript.Proofs.Following
import SceneScript.Proofs.Quiet

/-!
# Statements that contribute nothing

A statement whose code is empty has taken no names, so the rest of the script is what it would be
without the statement.

* `Program.Silent`: a block contributes nothing to a script.
* `Program.follows_silentWithin`: nothing changes if a silent statement is disabled.
* **`script_without_silent`**: a silent statement can be taken out.
-/

namespace SceneScript

namespace Program

/-! ## Silent blocks -/

/-- The code of a block as in `fragmentWithin`, but the run stops where the block at `r` contributes
something. -/
def silentWithin (p : Program) (r : Ref) : Nat → Ref → Gen Fragment
  | 0, _ => throw .cyclic
  | levels + 1, s => do
    let fragment ← p.fragmentStep p.variableField (p.silentWithin r levels) s
    if s = r ∧ fragment.isEmpty = false then throw (.dangling r) else return fragment

/-- Wherever the block at `r` comes up while the script is generated, its code is empty. -/
def Silent (p : Program) (r : Ref) : Prop :=
  ∃ codes, p.runFresh (p.topCode (p.silentWithin r p.maxLevels) p.workspace.top) = .ok codes

instance (p : Program) (r : Ref) : Decidable (p.Silent r) :=
  match h : p.runFresh (p.topCode (p.silentWithin r p.maxLevels) p.workspace.top) with
  | .ok codes => .isTrue ⟨codes, h⟩
  | .error _ => .isFalse fun ⟨_, hcodes⟩ => by cases h.symm.trans hcodes

theorem Silent.exists_run {p : Program} {r : Ref} (h : p.Silent r) : ∃ codes t,
    (p.topCode (p.silentWithin r p.maxLevels) p.workspace.top).run.run p.initialScope =
      (.ok codes, t) := by
  obtain ⟨codes, hcodes⟩ := h
  exact ⟨codes, _, Prod.ext hcodes rfl⟩

/-- The names in use when the script is finished. -/
def finalScope (p : Program) : Scope :=
  ((p.topCode p.fragment p.workspace.top).run.run p.initialScope).2

/-! ## Disabling silent statements -/

theorem follows_variableField {p : Program} (b : Block) (field : String) :
    Follows (Scope.Steady p) (p.variableField b field) (p.variableField b field) := by
  intro s a t hs hrun
  exact ⟨hrun, (gets_of_variableField hrun).steady hs⟩

section Silent

variable {p : Program} (hregistry : p.registry = .standard)
  (hw : p.workspace.WellLinked Registry.standard.shape?)
  (hdeclared : ∀ r b, p.workspace.block? r = some b → p.workspace.NamesDeclared b)

include hregistry hw hdeclared

theorem quietValues_silentWithin (r : Ref) : ∀ levels : Nat,
    p.QuietValues (p.silentWithin r levels)
  | 0, _, _, _, _ => quiet_throw _
  | levels + 1, s, b, hb, hvalue => by
    refine (quiet_fragmentStep hregistry hw hb (quietValues_silentWithin r levels)
      (hdeclared s b hb) hvalue).bind fun fragment => ?_
    split_ifs
    · exact quiet_throw _
    · exact quiet_pure _

variable {r : Ref} {gone : Block} (hgone : p.workspace.block? r = some gone)
  (hstatement : gone.isStatement = true) {w' : Workspace} {keep : Ref → Bool}
  (hmuted : p.workspace.Muted keep w') (hkeep : ∀ s, s ≠ r → keep s = true)

include hgone hstatement hmuted hkeep

/-- As long as the statement at `r` contributes nothing, it makes no difference whether it is
enabled. -/
theorem follows_silentWithin : ∀ (levels : Nat) (s : Ref),
    Follows (Scope.Steady p) (p.silentWithin r levels s)
      (({ p with workspace := w' } : Program).fragmentWithin levels s)
  | 0, _ => follows_throw _ _
  | levels + 1, s => by
    have hinner := follows_silentWithin levels
    cases hk : keep s with
    | true =>
      have hstep : Follows (Scope.Steady p)
          (p.fragmentStep p.variableField (p.silentWithin r levels) s)
          (({ p with workspace := w' } : Program).fragmentStep p.variableField
            (({ p with workspace := w' } : Program).fragmentWithin levels) s) := by
        exact follows_fragmentStep hmuted hinner hk fun b _ => follows_variableField b
      refine hstep.unnoticed fun fragment => ?_
      split_ifs
      · exact follows_throw _ _
      · exact follows_pure _
    | false =>
      obtain rfl : r = s := by
        by_contra hne
        rw [hkeep s (Ne.symm hne)] at hk
        cases hk
      intro scope f t hs hrun
      obtain ⟨f', u, hfragment, hwatch⟩ := run_bind_eq_ok hrun
      split_ifs at hwatch with hloud
      · cases hwatch
      · cases hwatch
        have hempty : f.isEmpty = true := by simpa using hloud
        obtain ⟨rfl, rfl⟩ := eq_of_isEmpty_fragmentStep hregistry hw hgone
          (quietValues_silentWithin hregistry hw hdeclared r levels) hstatement hs hfragment hempty
        refine ⟨?_, hs⟩
        have hgone' : w'.block? r = some { gone with enabled := false } := by
          rw [hmuted.block?, hgone, Option.map_some, hk, Bool.and_false]
        rw [fragmentWithin_succ]
        unfold fragmentStep block
        dsimp only
        rw [hgone']
        rfl

theorem finish_of_silent {codes : List String} {t : Scope}
    (hrun : (p.topCode (p.silentWithin r p.maxLevels) p.workspace.top).run.run p.initialScope =
      (.ok codes, t)) :
    ({ p with workspace := w' } : Program).script = .ok (String.intercalate "\n" codes) ∧
      ({ p with workspace := w' } : Program).finalScope = t := by
  have hinitial : ({ p with workspace := w' } : Program).initialScope = p.initialScope := by
    rw [initialScope, initialScope, hmuted.declared]
  have hlevels : ({ p with workspace := w' } : Program).maxLevels = p.maxLevels := by
    rw [maxLevels, maxLevels, hmuted.size]
  have hfollows := follows_topCode hmuted (follows_silentWithin hregistry hw hdeclared hgone
    hstatement hmuted hkeep p.maxLevels) p.workspace.top
  obtain ⟨hrun', -⟩ := hfollows _ _ _ p.steady_initialScope hrun
  rw [← hinitial, ← hlevels, ← hmuted.top] at hrun'
  constructor
  · rw [script, scriptWithin, runFresh, hrun']
    rfl
  · exact congrArg Prod.snd hrun'

end Silent

theorem finalScope_eq {p : Program} (houtputs : p.HasOutputs) {forest : List Tree}
    (hforest : p.workspace.forest? = some forest) :
    p.finalScope = ((Tree.flatCodes p.registry p.options forest).run p.initialScope).2 := by
  have htop := topCode_eq houtputs (fragmentWithin_eq houtputs p.maxLevels) hforest
    (levels_le_maxLevels hforest)
  have hrun : p.finalScope = ((Tree.topCodes p.registry p.options forest).run p.initialScope).2 :=
    congrArg (fun g : Gen (List String) => (g.run.run p.initialScope).2) htop
  exact hrun.trans (Tree.sameText_topCodes forest _).2

end Program

theorem muted_disable (w : Workspace) (r : Ref) : w.Muted (· != r) (w.disable r) where
  block? := fun _ => Workspace.block?_disable
  size := Workspace.size_disable
  top := rfl
  declared := rfl

theorem finalScope_without {registry : Registry} {text : String} {w : Workspace}
    (h : (parse registry.shape? text).workspace = some w) {r : Ref} {b : Block}
    (hb : w.block? r = some b) (options : ScriptOptions) :
    ({ workspace := w.without r, registry, options } : Program).finalScope =
      ({ workspace := w.disable r, registry, options } : Program).finalScope := by
  have hw := wellLinked_of_parse h
  obtain ⟨forest, hforest⟩ := exists_forest_of_parse h
  rw [Program.finalScope_eq (hasOutputs_without hw options hb)
      (hw.forest?_without (forward_of_parse h) hb hforest),
    Program.finalScope_eq (hasOutputs_disable hw options) (Workspace.forest?_disable hw hb hforest),
    flatCodes_disabled_of_forest? hw options hforest, Program.initialScope,
    Workspace.declared_without]
  rfl

/-- **Statements that contribute nothing leave no trace.** If no undeclared variable is found, and a
statement contributes nothing wherever it comes up, then the script without the statement is the
same, and so are the names in use when it is finished. -/
theorem script_without_silent (options : ScriptOptions) (text : String) (w : Workspace)
    (h : (parse Registry.standard.shape? text).workspace = some w) (findings : Diagnostics)
    (hcheck : w.check .standard = .ok findings) (hfindings : ∀ d ∈ findings.warnings, d.code ≠ 301)
    (r : Ref) (b : Block) (hb : w.block? r = some b) (hstatement : b.isStatement = true)
    (hsilent : ({ workspace := w, registry := .standard, options } : Program).Silent r) :
    ∃ script,
      ({ workspace := w, registry := .standard, options } : Program).script = .ok script ∧
      ({ workspace := w.without r, registry := .standard, options } : Program).script =
        .ok script ∧
      ({ workspace := w.without r, registry := .standard, options } : Program).finalScope =
        ({ workspace := w, registry := .standard, options } : Program).finalScope := by
  have hw := wellLinked_of_parse h
  have hdeclared : ∀ r b, w.block? r = some b → w.NamesDeclared b := fun _ _ =>
    hw.namesDeclared hcheck hfindings
  obtain ⟨codes, t, hrun⟩ := hsilent.exists_run
  obtain ⟨hscript, hfinal⟩ := Program.finish_of_silent rfl hw hdeclared hb hstatement
    (Workspace.muted_self w) (fun _ _ => rfl) hrun
  obtain ⟨hdisabled, hfinal'⟩ := Program.finish_of_silent rfl hw hdeclared hb hstatement
    (muted_disable w r) (fun _ => bne_iff_ne.2) hrun
  obtain ⟨forest, hforest⟩ := exists_forest_of_parse h
  rw [script_disable hw options hforest hb] at hdisabled
  have hwithout := script_without hw options hforest hb (forward_of_parse h)
  rw [hdisabled] at hwithout
  exact ⟨_, hscript, hwithout, (finalScope_without h hb options).trans (hfinal'.trans hfinal.symm)⟩

/-- Two statements that create a shape; the first one lacks the shape. -/
def incompleteText : String :=
  "[[0, [[\"create_shape\", \"a\", true, \x7b\x7d, \x7b\"COORDS\": [[\"coords\", \"p\"]]\x7d, " ++
    "[[\"create_shape\", \"b\", true, \x7b\x7d, \x7b\"SHAPE\": [[\"box\", \"x\", true, " ++
    "\x7b\x7d, \x7b\"MATERIAL\": [[\"texture_material\", \"m\"]]\x7d]], " ++
    "\"COORDS\": [[\"coords\", \"q\"]]\x7d]]]]], []]"

/-- The script of the second statement, which takes the first name. -/
def completeScript : String :=
  "shape_1 = [\x7b id: \"x\", type: \"box\", props: \x7b m: [\x7b id: \"m\", type: \"texture\", " ++
    "props: \x7b t: \"wood\" \x7d\x7d], s: 1 \x7d\x7d]; " ++
    "await threeD.createShape(shape_1, [0,0,0]);"

theorem script_without_silent_incompleteText :
    ∃ w b findings, (parse Registry.standard.shape? incompleteText).workspace = some w ∧
      w.check .standard = .ok findings ∧ findings.warnings = [] ∧ w.block? 0 = some b ∧
      b.isStatement = true ∧ ({ workspace := w, registry := .standard } : Program).Silent 0 ∧
      ({ workspace := w, registry := .standard } : Program).script = .ok completeScript ∧
      ({ workspace := w.without 0, registry := .standard } : Program).script =
        .ok completeScript := by
  have hchars : incompleteText.toList = _ :=
    Json.toList_append_of (Json.toList_append_of (Json.toList_append_of String.toList_ofList
      String.toList_ofList) String.toList_ofList) String.toList_ofList
  have hparse : ((parse Registry.standard.shape? incompleteText).workspace.bind fun w =>
      let p : Program := { workspace := w, registry := .standard }
      (w.block? 0).map fun b => decide (b.isStatement = true ∧ w.check .standard = .ok {} ∧
        p.Silent 0 ∧ p.script = .ok completeScript)) = some true := by
    rw [parse, Document.ofText, Json.decodeText, Json.Draft.ofText_of_toList hchars]
    decide +kernel
  obtain ⟨w, hw, hblock⟩ := Option.bind_eq_some_iff.1 hparse
  obtain ⟨b, hb, hfacts⟩ := Option.map_eq_some_iff.1 hblock
  obtain ⟨hstatement, hcheck, hsilent, hcomplete⟩ := of_decide_eq_true hfacts
  obtain ⟨script, hscript, hwithout, -⟩ := script_without_silent {} incompleteText w hw {} hcheck
    (by simp) 0 b hb hstatement hsilent
  rw [hscript] at hcomplete
  cases hcomplete
  exact ⟨w, b, {}, hw, hcheck, rfl, hb, hstatement, hsilent, hscript, hwithout⟩

end SceneScript
