import SceneScript.Proofs.Following
import SceneScript.Proofs.Parsed
import SceneScript.Proofs.Quiet
import SceneScript.Proofs.Script.Agreement

/-!
# Tags of identifiers

A field of variables asks for variables of one tag. If nothing is found about a workspace, then the
identifiers that its fields get while the script is generated are free identifiers, and they are
apart from the runtime namespace and from the variables of other tags. There is one exception: a
field that is not set, and for whose tag there is no variable, falls back on a fixed name. Nothing
keeps the runtime namespace or a variable of another tag from having this name.

* `Program.watchedScript`: the script, as long as the identifiers of fields have some property.
* `Program.Apart`: apart from the runtime namespace and from variables of other tags.
* `Program.FallsBack`: a field that gets its fixed name.
* **`identifiers_admissible`**: the identifiers of fields while a script is generated.
-/

namespace SceneScript

open Script

/-! ## Watching fields -/

/-- The tag of a field of variables, and what the field stands for if it is not set. -/
def FieldKind.picks? : FieldKind → Option (SocketTag × VariableDefault)
  | .reference tag initial => some (tag, initial)
  | _ => none

namespace Program

variable (p : Program)

/-- The tag of a field of a block, and what the field stands for if it is not set. -/
def picks? (b : Block) (field : String) : Option (SocketTag × VariableDefault) :=
  (p.fieldKind? b field).bind FieldKind.picks?

section Watching

variable (P : Block → String → String → Prop) [∀ b field name, Decidable (P b field name)]

/-- The identifier of a field as in `variableField`, but the run stops if it does not have `P`. -/
def watchedField (b : Block) (field : String) : Gen String := do
  let name ← p.variableField b field
  if P b field name then return name else throw .cyclic

/-- The script, but the run stops where a field gets an identifier that does not have `P`. -/
def watchedScript : Except BadGraph String := p.scriptAsking (p.watchedField P)

variable {p P} {I : Scope → Prop}

/-- If all fields get identifiers with `P`, nobody notices that the run is watched. -/
theorem watchedScript_eq (hI : I p.initialScope)
    (hfield : ∀ r b, p.workspace.block? r = some b → ∀ field s name t, I s →
      (p.variableField b field : Gen String).run.run s = (.ok name, t) → P b field name ∧ I t)
    {script : String} (hscript : p.script = .ok script) : p.watchedScript P = .ok script := by
  refine scriptAsking_eq (fun r b hb field s name t hs hrun => ?_) hI hscript
  obtain ⟨hname, ht⟩ := hfield r b hb field s name t hs hrun
  refine ⟨?_, ht⟩
  rw [watchedField, run_bind_gen, hrun]
  dsimp only
  rw [if_pos hname]
  rfl

end Watching

end Program

/-! ## Names and tags -/

namespace Program

variable (p : Program)

/-- The name is not that of the runtime namespace, and if it is the identifier of a variable, then
that of a variable of the tag. -/
structure Apart (tag : SocketTag) (name : String) : Prop where
  not_runtime : name ≠ p.options.runtime
  same_tag : ∀ v ∈ p.workspace.declared, p.identifierOf v = name → v.tag = tag

instance (tag : SocketTag) (name : String) : Decidable (p.Apart tag name) :=
  decidable_of_iff (name ≠ p.options.runtime ∧
    ∀ v ∈ p.workspace.declared, p.identifierOf v = name → v.tag = tag)
    ⟨fun h => ⟨h.1, h.2⟩, fun h => ⟨h.1, h.2⟩⟩

/-- The field is not set, there is no variable of its tag, and the name is the fixed one that it has
for this case. -/
def FallsBack (b : Block) (field : String) (tag : SocketTag) (initial : VariableDefault)
    (name : String) : Prop :=
  (b.fields.get? field).bind FieldValue.reference? = none ∧ initial = .first name ∧
    ∀ v ∈ p.workspace.declared, v.tag ≠ tag

/-- If it is a field of variables, the name is a free identifier, which is apart from the runtime
namespace and from variables of other tags. -/
def WellTagged (b : Block) (field name : String) : Prop :=
  ∀ kind ∈ p.picks? b field, FreeName name ∧ p.Apart kind.1 name

/-- If it is a field of variables, the name is a free identifier, which is apart from the runtime
namespace and from variables of other tags or the field falls back on it. -/
def Admissible (b : Block) (field name : String) : Prop :=
  ∀ kind ∈ p.picks? b field,
    FreeName name ∧ (p.Apart kind.1 name ∨ p.FallsBack b field kind.1 kind.2 name)

instance (b : Block) (field name : String) : Decidable (p.WellTagged b field name) :=
  inferInstanceAs (Decidable (∀ kind ∈ p.picks? b field, FreeName name ∧ p.Apart kind.1 name))

instance (b : Block) (field : String) (tag : SocketTag) (initial : VariableDefault)
    (name : String) : Decidable (p.FallsBack b field tag initial name) :=
  inferInstanceAs (Decidable ((b.fields.get? field).bind FieldValue.reference? = none ∧
    initial = .first name ∧ ∀ v ∈ p.workspace.declared, v.tag ≠ tag))

instance (b : Block) (field name : String) : Decidable (p.Admissible b field name) :=
  inferInstanceAs (Decidable (∀ kind ∈ p.picks? b field,
    FreeName name ∧ (p.Apart kind.1 name ∨ p.FallsBack b field kind.1 kind.2 name)))

end Program

/-! ## Fixed names -/

namespace Program

variable {p : Program} {b : Block} {field : String} {tag : SocketTag} {initial : VariableDefault}

theorem picks?_eq_some_iff :
    p.picks? b field = some (tag, initial) ↔
      p.fieldKind? b field = some (.reference tag initial) := by
  unfold picks?
  cases p.fieldKind? b field with
  | none => simp
  | some kind => cases kind <;> simp [FieldKind.picks?]

theorem properDefault (hregistry : p.registry = .standard)
    (hkind : p.fieldKind? b field = some (.reference tag initial)) : ProperDefault initial := by
  rw [fieldKind?_eq, hregistry] at hkind
  exact Node.proper_of_fieldKind? hkind

/-! ## Sound names -/

section Sound

variable (hregistry : p.registry = .standard) {s t : Scope} {name : String}
  (h : p.Gets b field s name t) (hs : s.Sound)

include hregistry h hs

theorem Gets.sound : t.Sound := by
  cases h with
  | picked | first => exact (agrees_resolve _ s hs).2.1
  | fallback | again | other => exact hs
  | fresh hkind hlookup =>
    have hsound := (agrees_freshName b.id field (properDefault hregistry hkind) s hs).2.1
    rwa [run_freshName, hlookup] at hsound

theorem Gets.freeName (hkind : p.fieldKind? b field = some (.reference tag initial)) :
    FreeName name := by
  cases h with
  | picked | first => exact (agrees_resolve _ s hs).2.2.2
  | fallback _ hkind => exact properDefault hregistry hkind
  | again hkind hlookup | fresh hkind hlookup =>
    have hname := (agrees_freshName b.id field (properDefault hregistry hkind) s hs).2.2.2
    rwa [run_freshName, hlookup] at hname
  | other hother => exact absurd hkind (hother tag initial)

end Sound

/-! ## Names apart -/

theorem runtime_mem_reserved {s : Scope} (hs : s.Steady p) :
    p.options.runtime ∈ s.names.reserved := by
  rw [← hs.runtime]
  exact List.mem_cons_self

theorem sound_initialScope : p.initialScope.Sound :=
  sound_initial p.workspace.declared p.options.runtime

theorem apart_identifierOf (hids : (p.workspace.declared.map Variable.id).Nodup) {v : Variable}
    (hv : v ∈ p.workspace.declared) : p.Apart v.tag (p.identifierOf v) := by
  have hygienic := (sound_initialScope (p := p)).hygienic
  have hlookup := p.lookup_initialScope hv
  constructor
  · intro hruntime
    refine hygienic.not_reserved _
      (List.mem_append_left _ (Namespace.mem_bound_of_lookup hlookup)) ?_
    rw [hruntime]
    exact runtime_mem_reserved p.steady_initialScope
  · intro v' hv' hsame
    have hlookup' := p.lookup_initialScope hv'
    rw [hsame] at hlookup'
    have hid : v'.id = v.id := hygienic.eq_of_lookup hlookup' hlookup
    exact congrArg Variable.tag (List.inj_on_of_nodup_map hids hv' hv hid)

/-- A name that was made for a field is apart from everything. -/
theorem apart_of_mem_fresh {s : Scope} (hs : s.Sound) (hsteady : s.Steady p) {name : String}
    (hname : name ∈ s.fresh.map Prod.snd) (tag : SocketTag) : p.Apart tag name := by
  constructor
  · rintro rfl
    exact hs.hygienic.not_reserved _ (List.mem_append_right _ hname) (runtime_mem_reserved hsteady)
  · intro v hv hsame
    have hbound := Namespace.mem_bound_of_lookup (hsteady.lookup hv)
    rw [hsame] at hbound
    exact absurd rfl ((List.nodup_append.1 hs.hygienic.distinct).2.2 name hbound name hname)

end Program

/-- If nothing is found, a field that is set refers to a declared variable of its tag. -/
theorem Workspace.WellLinked.exists_variable {registry : Registry} {w : Workspace}
    (hw : w.WellLinked registry.shape?) {findings : Diagnostics}
    (hcheck : w.check registry = .ok findings) (hfindings : findings.warnings = [])
    {r : Ref} {b : Block} (hb : w.block? r = some b) {shape : Shape}
    (hshape : registry.shape? b.kind = some shape) {field id : String} {tag : SocketTag}
    {initial : VariableDefault} (hkind : shape.field? field = some (.reference tag initial))
    (hset : (b.fields.get? field).bind FieldValue.reference? = some id) :
    ∃ v ∈ w.declared, v.id = id ∧ v.tag = tag := by
  obtain ⟨value, hvalue, hreference⟩ := Option.bind_eq_some_iff.1 hset
  cases value with
  | reference id' =>
    cases hreference
    have hnone : checkField? w shape b field (.reference id) = none := by
      refine Option.eq_none_iff_forall_ne_some.2 fun problem hproblem => ?_
      have hmem := hw.mem_warnings_of_checkField? hcheck hb hshape hvalue hproblem
      rw [hfindings] at hmem
      cases hmem
    simp only [checkField?, hkind] at hnone
    cases hdeclared : w.declared? id with
    | none => simp [hdeclared] at hnone
    | some v =>
      have htag : v.tag = tag := by simpa [hdeclared] using hnone
      have hid := List.find?_some hdeclared
      exact ⟨v, List.mem_of_find?_eq_some hdeclared, beq_iff_eq.1 hid, htag⟩
  | _ => cases hreference

namespace Program

variable {p : Program} (hregistry : p.registry = .standard)
  (hw : p.workspace.WellLinked Registry.standard.shape?)
  (hids : (p.workspace.declared.map Variable.id).Nodup) {findings : Diagnostics}
  (hcheck : p.workspace.check .standard = .ok findings) (hfindings : findings.warnings = [])

include hregistry hw hids hcheck hfindings

/-- **The identifier of a field is admissible**, in whatever way the field gets it. -/
theorem Gets.admissible {r : Ref} {b : Block} (hb : p.workspace.block? r = some b)
    {field name : String} {s t : Scope} (h : p.Gets b field s name t) (hs : s.Sound)
    (hsteady : s.Steady p) : p.Admissible b field name := by
  rintro ⟨tag, initial⟩ hpicks
  have hkind := picks?_eq_some_iff.1 hpicks
  refine ⟨h.freeName hregistry hs hkind, ?_⟩
  have ht := h.sound hregistry hs
  have hsteady' := h.steady hsteady
  cases h with
  | picked hset =>
    obtain ⟨shape, hshape, -⟩ := hw.has_shape r b hb
    have hfield : shape.field? field = some (.reference tag initial) := by
      have hshape : Registry.standard.shape? b.node.kind = some shape := hshape
      rwa [fieldKind?_eq, hregistry, Node.fieldKind?, hshape, Option.bind_some] at hkind
    obtain ⟨v, hv, rfl, rfl⟩ := hw.exists_variable hcheck hfindings hb hshape hfield hset
    rw [hsteady.resolve_eq hv]
    exact .inl (apart_identifierOf hids hv)
  | first hfirst hv =>
    rw [hkind] at hfirst
    cases hfirst
    rw [Namespace.firstOfTag?, hsteady.declared] at hv
    have htag := List.find?_some hv
    obtain rfl := beq_iff_eq.1 htag
    have hmem := List.mem_of_find?_eq_some hv
    rw [hsteady.resolve_eq hmem]
    exact .inl (apart_identifierOf hids hmem)
  | fallback hunset hfallback hnone =>
    rw [hkind] at hfallback
    cases hfallback
    rw [Namespace.firstOfTag?, hsteady.declared] at hnone
    exact .inr ⟨hunset, rfl, fun v hv htag => List.find?_eq_none.1 hnone v hv (beq_iff_eq.2 htag)⟩
  | again _ hlookup =>
    have hmem := List.mem_map_of_mem (f := Prod.snd) (Dict.mem_of_lookup hlookup)
    exact .inl (apart_of_mem_fresh hs hsteady hmem tag)
  | fresh =>
    exact .inl (apart_of_mem_fresh ht hsteady' List.mem_cons_self tag)
  | other hother => exact absurd hkind (hother tag initial)

end Program

/-- **Identifiers are admissible.** If nothing is found about a workspace, then while its script is
generated, each identifier that a field of variables gets is a free identifier. It is not the name
of the runtime namespace, and if a variable has it, then a variable of the field's tag, unless the
field is not set and falls back on its fixed name since there is no variable of its tag. -/
theorem identifiers_admissible (options : ScriptOptions) (text : String) (w : Workspace)
    (h : (parse Registry.standard.shape? text).workspace = some w) (findings : Diagnostics)
    (hcheck : w.check .standard = .ok findings) (hfindings : findings.warnings = []) :
    ∃ script, ({ workspace := w, registry := .standard, options } : Program).script = .ok script ∧
      ({ workspace := w, registry := .standard, options } : Program).watchedScript
        (({ workspace := w, registry := .standard, options } : Program).Admissible) =
          .ok script := by
  obtain ⟨script, hscript⟩ := exists_script_of_parse h options
  refine ⟨script, hscript, ?_⟩
  refine Program.watchedScript_eq (I := fun s => s.Sound ∧ s.Steady _)
    ⟨Program.sound_initialScope, Program.steady_initialScope _⟩ ?_ hscript
  rintro r b hb field s name t ⟨hs, hsteady⟩ hrun
  have hgets := Program.gets_of_variableField hrun
  exact ⟨hgets.admissible rfl (wellLinked_of_parse h) (nodup_declared_of_parse h) hcheck hfindings
    hb hs hsteady, hgets.sound rfl hs, hgets.steady hsteady⟩

/-- Four statements: the first one creates a light, the next two set an intensity, of no light in
particular and of the second variable, and the last one sets a mass, of no shape in particular. Both
variables are lights. -/
def taggedText : String :=
  "[[0, [[\"create_light\", \"a\", true, \x7b\x7d, \x7b\"LIGHT\": [[\"lightbulb\"]], " ++
    "\"COORDS\": [[\"coords\"]]\x7d], [\"set_light_intensity\"], " ++
    "[\"set_light_intensity\", \"c\", true, \x7b\"VAR\": \"r\"\x7d], [\"set_mass\"]]], " ++
    "[[\"s\", \"shape_1\", \"LIGHT\"], [\"r\", \"light_1\", \"LIGHT\"]]]"

/-- The new light avoids the second variable and the runtime namespace. The shape has its fixed
name, which is also the identifier of the first variable. -/
def taggedScript : String :=
  "light_3 = [\x7b id: \"__block2\", type: \"lightbulb\", props: \x7b b: 1, c: \"#ffffff\" " ++
    "\x7d\x7d]; await light_2.createLight(light_3, [0,0,0]);\n" ++
    "light_2.setLightIntensity(shape_1, 1);\nlight_2.setLightIntensity(light_1, 1);\n" ++
    "light_2.setMass(shape_1, 1);"

theorem identifiers_admissible_taggedText :
    ∃ w p, (parse Registry.standard.shape? taggedText).workspace = some w ∧
      p = ({ workspace := w, registry := .standard, options := { runtime := "light_2" } } :
        Program) ∧
      w.check .standard = .ok {} ∧ p.script = .ok taggedScript ∧
      p.watchedScript p.Admissible = .ok taggedScript := by
  have hchars : taggedText.toList = _ :=
    Json.toList_append_of (Json.toList_append_of (Json.toList_append_of String.toList_ofList
      String.toList_ofList) String.toList_ofList) String.toList_ofList
  have hparse : ((parse Registry.standard.shape? taggedText).workspace.map fun w =>
      let p : Program :=
        { workspace := w, registry := .standard, options := { runtime := "light_2" } }
      decide (w.check .standard = .ok {} ∧ p.script = .ok taggedScript)) = some true := by
    rw [parse, Document.ofText, Json.decodeText, Json.Draft.ofText_of_toList hchars]
    decide +kernel
  obtain ⟨w, hw, hfacts⟩ := Option.map_eq_some_iff.1 hparse
  obtain ⟨hcheck, htagged⟩ := of_decide_eq_true hfacts
  obtain ⟨script, hscript, hwatched⟩ :=
    identifiers_admissible { runtime := "light_2" } taggedText w hw {} hcheck rfl
  rw [hscript] at htagged
  cases htagged
  exact ⟨w, _, hw, rfl, hcheck, hscript, hwatched⟩

/-- A statement that sets a mass, of no shape in particular. The only variable is a light. -/
def lampText : String := "[[0, [[\"set_mass\", \"a\"]]], [[\"l\", \"shape_1\", \"LIGHT\"]]]"

/-- The same statement without variables. -/
def massText : String := "[[0, [[\"set_mass\", \"a\"]]]]"

/-- **Fixed names are not apart.** Though nothing is found, a field of shapes can get the identifier
of a light, and it can get the name of the runtime namespace. -/
theorem fallback_not_wellTagged :
    (∃ w b p, (parse Registry.standard.shape? lampText).workspace = some w ∧
      w.check .standard = .ok {} ∧ w.block? 0 = some b ∧ b.enabled = true ∧
      p = ({ workspace := w, registry := .standard } : Program) ∧
      p.picks? b "VAR" = some (.shape, .first "shape_1") ∧
      w.declared.map (fun v => (v.tag, p.identifierOf v)) = [(.light, "shape_1")] ∧
      p.script = .ok "threeD.setMass(shape_1, 1);" ∧
      ∀ script, p.watchedScript p.WellTagged ≠ .ok script) ∧
    ∃ w p, (parse Registry.standard.shape? massText).workspace = some w ∧
      w.check .standard = .ok {} ∧
      p = ({ workspace := w, registry := .standard, options := { runtime := "shape_1" } } :
        Program) ∧
      p.script = .ok "shape_1.setMass(shape_1, 1);" ∧
      ∀ script, p.watchedScript p.WellTagged ≠ .ok script := by
  have hchars : lampText.toList = _ := String.toList_ofList
  have hchars' : massText.toList = _ := String.toList_ofList
  constructor
  · have hparse : ((parse Registry.standard.shape? lampText).workspace.bind fun w =>
        let p : Program := { workspace := w, registry := .standard }
        (w.block? 0).map fun b => decide (w.check .standard = .ok {} ∧ b.enabled = true ∧
          p.picks? b "VAR" = some (.shape, .first "shape_1") ∧
          w.declared.map (fun v => (v.tag, p.identifierOf v)) = [(.light, "shape_1")] ∧
          p.script = .ok "threeD.setMass(shape_1, 1);" ∧
          p.watchedScript p.WellTagged = .error .cyclic)) = some true := by
      rw [parse, Document.ofText, Json.decodeText, Json.Draft.ofText_of_toList hchars]
      decide +kernel
    obtain ⟨w, hw, hblock⟩ := Option.bind_eq_some_iff.1 hparse
    obtain ⟨b, hb, hfacts⟩ := Option.map_eq_some_iff.1 hblock
    obtain ⟨hcheck, henabled, hpicks, hnames, hscript, hstops⟩ := of_decide_eq_true hfacts
    exact ⟨w, b, _, hw, hcheck, hb, henabled, rfl, hpicks, hnames, hscript,
      fun script hok => by cases hstops.symm.trans hok⟩
  · have hparse : ((parse Registry.standard.shape? massText).workspace.map fun w =>
        let p : Program :=
          { workspace := w, registry := .standard, options := { runtime := "shape_1" } }
        decide (w.check .standard = .ok {} ∧ p.script = .ok "shape_1.setMass(shape_1, 1);" ∧
          p.watchedScript p.WellTagged = .error .cyclic)) = some true := by
      rw [parse, Document.ofText, Json.decodeText, Json.Draft.ofText_of_toList hchars']
      decide +kernel
    obtain ⟨w, hw, hfacts⟩ := Option.map_eq_some_iff.1 hparse
    obtain ⟨hcheck, hscript, hstops⟩ := of_decide_eq_true hfacts
    exact ⟨w, _, hw, hcheck, rfl, hscript, fun script hok => by cases hstops.symm.trans hok⟩

end SceneScript
