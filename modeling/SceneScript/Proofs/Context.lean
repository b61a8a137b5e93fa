import SceneScript.Proofs.Levels
import SceneScript.Proofs.Quiet
import SceneScript.Proofs.Refilling

/-!
# Values in context

While code is generated, names are handed out, so that the code of a block can depend on what was
asked before. The code of a value does not: if all fields refer to declared variables, it is the
same whenever it is asked for, and asking for it changes nothing.

* `Program.Call`, `Program.Reachable`: what can be asked, and the names in use after it.
* `Program.steady_of_reachable`: the declared variables keep their identifiers.
* `Program.quietValues_fragmentWithin`: the code of a value changes no names.
* **`fragment_eq_of_reachable`**: the code of a value is the same in every context.
-/

namespace SceneScript

namespace Program

/-! ## Calls -/

/-- What can be asked while code is generated: the code of a block, of a chain and of what is in an
input of a block, the identifier in a field, and what can be asked of the names themselves. Blocks
need not be those of the workspace. Other questions about a block, such as the text in a field,
have nothing to do with names. -/
inductive Call where
  | fragment (r : Ref)
  | chain (head : Ref)
  | value (b : Block) (input : String) (outer : Precedence)
  | body (b : Block) (input : String)
  | identifier (b : Block) (field : String)
  | names (call : Namespace.Call)

/-- The names in use after a call. They stay even if the call fails. -/
def scopeAfter (p : Program) (s : Scope) : Call → Scope
  | .fragment r => ((p.fragment r : Gen Fragment).run.run s).2
  | .chain head => ((p.chainCode p.fragment head).run.run s).2
  | .value b input outer => ((p.valueCode p.fragment b input outer).run.run s).2
  | .body b input => ((p.bodyCode p.fragment b input).run.run s).2
  | .identifier b field => ((p.variableField b field : Gen String).run.run s).2
  | .names call => { s with names := (s.names.answer call).2 }

/-- The names in use after some calls, one after another. -/
inductive Reachable (p : Program) : Scope → Prop
  | initial : Reachable p p.initialScope
  | after {s : Scope} (h : Reachable p s) (call : Call) : Reachable p (p.scopeAfter s call)

/-! ## Steady names -/

variable {p : Program}

/-- Both runs have the same names in use, and these are steady. -/
def BothSteady (p : Program) (s t : Scope) : Prop := s = t ∧ s.Steady p

theorem lockstep_variableField_steady (b : Block) (field : String) :
    Lockstep p.BothSteady Eq (p.variableField b field) (p.variableField b field) := by
  rintro s _ ⟨rfl, hs⟩
  obtain ⟨name, t, hrun, hgets⟩ := p.exists_gets_variableField b field s
  rw [hrun]
  exact ⟨rfl, rfl, hgets.steady hs⟩

theorem refilled_self (w : Workspace) : w.Refilled (fun _ b => b.fields) w where
  block? r := by cases w.block? r <;> rfl
  size := rfl
  top := rfl

/-- A program is alike to itself, as long as names are steady. -/
theorem alike_self_steady (p : Program) : p.Alike (.sameUpTo p.BothSteady) p :=
  alike_refilled (refilled_self p.workspace) ⟨rfl, p.steady_initialScope⟩ fun _ b _ =>
    ⟨lockstep_variableField_steady b, fun _ => rfl, fun _ => rfl⟩

theorem steady_of_lockstep {α : Type} {R : α → α → Prop} {g : Gen α}
    (h : Lockstep p.BothSteady R g g) {s : Scope} (hs : s.Steady p) : (g.run.run s).2.Steady p :=
  (h s s ⟨rfl, hs⟩).2.2

/-- Whatever is asked, the declared variables keep their identifiers. -/
theorem steady_scopeAfter {s : Scope} (hs : s.Steady p) (call : Call) :
    (p.scopeAfter s call).Steady p := by
  have halike := alike_self_steady p
  have hinner := lockstep_fragmentWithin halike p.maxLevels
  cases call with
  | fragment r => exact steady_of_lockstep (hinner r) hs
  | chain head => exact steady_of_lockstep (lockstep_chainCode halike hinner head) hs
  | value b input outer =>
    exact steady_of_lockstep
      (lockstep_valueCode_refilled (refilled_self p.workspace) hinner b b.fields input outer) hs
  | body b input =>
    have hbody : Lockstep p.BothSteady Eq (p.bodyCode p.fragment b input)
        (p.bodyCode p.fragment b input) := by
      unfold bodyCode
      cases b.statementInput input with
      | none => exact lockstep_pure rfl
      | some head =>
        exact (lockstep_chainCode halike hinner head).bind fun _ _ h => lockstep_pure (h ▸ rfl)
    exact steady_of_lockstep hbody hs
  | identifier b field => exact steady_of_lockstep (lockstep_variableField_steady b field) hs
  | names call => exact hs.answer call s.fresh

/-- **The declared variables keep their identifiers** in every context. -/
theorem steady_of_reachable {s : Scope} (h : p.Reachable s) : s.Steady p := by
  induction h with
  | initial => exact p.steady_initialScope
  | after _ call ih => exact steady_scopeAfter ih call

/-! ## Values -/

section Values

variable (hregistry : p.registry = .standard)
  (hw : p.workspace.WellLinked Registry.standard.shape?)
  (hdeclared : ∀ r b, p.workspace.block? r = some b → p.workspace.NamesDeclared b)

include hregistry hw hdeclared

/-- The code of a value changes no names, however deep the values in its inputs go. -/
theorem quietValues_fragmentWithin : ∀ levels : Nat, p.QuietValues (p.fragmentWithin levels)
  | 0, _, _, _, _ => quiet_throw _
  | levels + 1, r, b, hb, hvalue =>
    quiet_fragmentStep hregistry hw hb (quietValues_fragmentWithin levels) (hdeclared r b hb) hvalue

end Values

end Program

/-- The block of an id is the one at its place. -/
theorem Workspace.WellLinked.find?_id {catalog : Catalog} {w : Workspace}
    (hw : w.WellLinked catalog) {r : Ref} {b : Block} (hb : w.block? r = some b) :
    w.find? b.id = some r := by
  have hid : b.id ∈ w.blocks.toList.map Block.id :=
    List.mem_map_of_mem (mem_blocks_of_block? hb)
  obtain ⟨s, -, hs⟩ := Workspace.exists_find? hid
  obtain ⟨c, hc, hcid⟩ : ∃ c, w.block? s = some c ∧ c.id = b.id := by
    obtain ⟨hlt, heq, -⟩ := Array.findIdx?_eq_some_iff_getElem.1 hs
    exact ⟨w.blocks[s], Array.getElem?_eq_getElem hlt, beq_iff_eq.1 heq⟩
  rw [hs, hw.ref_eq_of_id hc hb hcid]

/-- **The code of a value is the same in every context.** If no field of a workspace that is parsed
refers to an undeclared variable, then the code of a value is the same after all calls, it is the
one that is generated for the block on its own, and asking for it changes no names. -/
theorem fragment_eq_of_reachable (p : Program) (hregistry : p.registry = .standard) (text : String)
    (h : (parse Registry.standard.shape? text).workspace = some p.workspace)
    (findings : Diagnostics) (hcheck : p.workspace.check .standard = .ok findings)
    (hfindings : ∀ d ∈ findings.warnings, d.code ≠ 301) (r : Ref) (b : Block)
    (hb : p.workspace.block? r = some b) (hvalue : b.isStatement = false) :
    ∃ fragment, (∀ s, p.Reachable s → (p.fragment r : Gen Fragment).run.run s = (.ok fragment, s)) ∧
      p.blockScript b.id = .ok (.ok fragment.code) := by
  have hw := wellLinked_of_parse h
  have hdeclared : ∀ r b, p.workspace.block? r = some b → p.workspace.NamesDeclared b :=
    fun _ _ => hw.namesDeclared hcheck hfindings
  obtain ⟨outcome, hquiet⟩ :=
    Program.quietValues_fragmentWithin hregistry hw hdeclared p.maxLevels r b hb hvalue
  have hscript : p.blockScript b.id = .ok (outcome.map Fragment.code) := by
    rw [Program.blockScript, Program.blockScriptWithin, hw.find?_id hb]
    dsimp only
    rw [Program.runFresh, hquiet _ p.steady_initialScope]
  obtain ⟨w, registry, options⟩ := p
  subst hregistry
  -- A workspace that is parsed has no cycles, so the outcome is no failure.
  obtain ⟨code, hcode, -⟩ := exists_blockScriptWithin_of_parse h options
    (List.mem_map_of_mem (Workspace.mem_blocks_of_block? hb))
  rw [hscript, Except.ok.injEq] at hcode
  cases outcome with
  | error e => cases hcode
  | ok fragment =>
    exact ⟨fragment, fun s hs => hquiet s (Program.steady_of_reachable hs), hscript⟩

/-- A light whose brightness is a variable. The variable is a shape, which is warned about. -/
def bulbText : String :=
  "[[0, [[\"lightbulb\", \"a\", true, \x7b\x7d, \x7b\"BRIGHTNESS\": [[\"get_shape\", \"b\", " ++
    "true, \x7b\"VAR\": \"s\"\x7d]]\x7d]]], [[\"s\", \"ball\", \"SHAPE\"]]]"

/-- The code of the light in `bulbText`. -/
def bulbCode : String :=
  "[\x7b id: \"a\", type: \"lightbulb\", props: \x7b b: ball, c: \"#ffffff\" \x7d\x7d]"

theorem fragment_eq_bulbText :
    ∃ w findings s, (parse Registry.standard.shape? bulbText).workspace = some w ∧
      w.check .standard = .ok findings ∧ findings.warnings.map Diagnostic.code = [300] ∧
      Program.Reachable { workspace := w, registry := .standard } s ∧
      s.names.taken = ["ball_2", "ball_1", "ball"] ∧
      (({ workspace := w, registry := .standard } : Program).fragment 0).run.run s =
        (.ok (.value bulbCode .atomic), s) ∧
      ({ workspace := w, registry := .standard } : Program).blockScript "a" =
        .ok (.ok bulbCode) := by
  have hchars : bulbText.toList = _ :=
    Json.toList_append_of String.toList_ofList String.toList_ofList
  have hparse : ((parse Registry.standard.shape? bulbText).workspace.map fun w => decide
      ((w.block? 0).map (fun b => (b.id, b.isStatement)) = some ("a", false) ∧
        (w.check .standard).toOption.map (fun findings => findings.warnings.map Diagnostic.code) =
          some [300] ∧
        w.declared = [⟨"s", "ball", .shape⟩] ∧
        (({ workspace := w, registry := .standard } : Program).runFresh
          (({ workspace := w, registry := .standard } : Program).fragment 0)) =
            .ok (.value bulbCode .atomic))) = some true := by
    rw [parse, Document.ofText, Json.decodeText, Json.Draft.ofText_of_toList hchars]
    decide +kernel
  obtain ⟨w, hw, hfacts⟩ := Option.map_eq_some_iff.1 hparse
  obtain ⟨hblock, hcodes, hdeclared, hfragment⟩ := of_decide_eq_true hfacts
  obtain ⟨b, hb, hpair⟩ := Option.map_eq_some_iff.1 hblock
  obtain ⟨hid, hvalue⟩ := Prod.mk.inj hpair
  cases hcheck : w.check .standard with
  | error e =>
    rw [hcheck] at hcodes
    cases hcodes
  | ok findings =>
    rw [hcheck] at hcodes
    have hcodes : findings.warnings.map Diagnostic.code = [300] := Option.some.inj hcodes
    have hfindings : ∀ d ∈ findings.warnings, d.code ≠ 301 := by
      intro d hd
      have hmem := List.mem_map_of_mem (f := Diagnostic.code) hd
      rw [hcodes, List.mem_singleton] at hmem
      rw [hmem]
      decide
    let p : Program := { workspace := w, registry := .standard }
    obtain ⟨fragment, hcontext, hscript⟩ :=
      fragment_eq_of_reachable p rfl bulbText hw findings hcheck hfindings 0 b hb hvalue
    have heq : fragment = .value bulbCode .atomic := by
      rw [Program.runFresh, hcontext _ .initial] at hfragment
      exact Except.ok.inj hfragment
    subst heq
    rw [hid] at hscript
    have hreachable :=
      (Program.Reachable.initial (p := p)).after (.names (.claim "ball")) |>.after
        (.names (.resolve "ball"))
    refine ⟨w, findings, _, hw, hcheck, hcodes, hreachable, ?_, hcontext _ hreachable, hscript⟩
    show (((Namespace.ofVariables w.declared "threeD").claim "ball").2.resolve "ball").2.taken = _
    rw [hdeclared]
    decide +kernel

end SceneScript
