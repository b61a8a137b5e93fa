import SceneScript.Proofs.Parsed
import SceneScript.Proofs.Quiet
import SceneScript.Proofs.Refilling
import SceneScript.Proposal

/-!
# Filling in unset fields

What the editor puts into the fields of a new block is found in another way than what a field stands
for while a script is generated. The two agree: if a field is set to what is proposed for it, and
nothing has to be created for that, then neither the script nor what checking finds changes.

* `Proposal.value?`: what is put into a field without creating a variable.
* `FieldKind.StandsFor`: what a field stands for as long as it is not set.
* `Program.fieldsAlike_insert`: a field answers alike before and after it is set to that.
* **`script_setField_proposal`**: setting a field to what is proposed changes nothing.
-/

namespace SceneScript

/-- What is put into a field, if nothing is created for it. -/
def Proposal.value? : Proposal → Option FieldValue
  | .literal value => some value
  | .existing v => some (.reference v.id)
  | .create _ _ => none

/-- The workspace with a field of a block set. -/
def Workspace.setField (w : Workspace) (r : Ref) (field : String) (value : FieldValue) :
    Workspace :=
  w.modify r fun b => { b with fields := b.fields.insert field value }

/-- What a field of a kind stands for as long as it is not set. -/
inductive FieldKind.StandsFor (declared : List Variable) : FieldKind → FieldValue → Prop
  /-- A field of literals stands for what it holds at first. -/
  | literal {kind : FieldKind} {value : FieldValue} (h : kind.default? = some value) :
    StandsFor declared kind value
  /-- A field of variables stands for the first variable of its tag. -/
  | first {tag : SocketTag} {fallback : String} {v : Variable}
    (h : declared.find? (·.tag == tag) = some v) :
    StandsFor declared (.reference tag (.first fallback)) (.reference v.id)

/-! ## What is proposed -/

theorem FieldKind.reference?_of_default? {kind : FieldKind} {value : FieldValue}
    (h : kind.default? = some value) : value.reference? = none := by
  cases kind with
  | dropdown options =>
    obtain ⟨option, -, rfl⟩ := Option.map_eq_some_iff.1 h
    rfl
  | reference tag initial => cases h
  | _ =>
    cases h
    rfl

/-- What is proposed for a field is what it stands for. -/
theorem FieldKind.standsFor_of_proposal? {names : Namespace} {kind : FieldKind} {value : FieldValue}
    (h : (kind.proposal? names).bind Proposal.value? = some value) :
    kind.StandsFor names.declared value := by
  cases kind with
  | reference tag initial =>
    cases initial with
    | fresh stem => cases h
    | first fallback =>
      unfold proposal? at h
      cases hfirst : names.firstOfTag? tag with
      | none => simp [hfirst, Proposal.value?] at h
      | some v =>
        simp only [hfirst, Option.bind_some, Proposal.value?, Option.some.injEq] at h
        rw [← h]
        exact .first hfirst
  | dropdown options =>
    refine .literal ?_
    simpa [proposal?, Option.bind_map, Function.comp_def, Proposal.value?] using h
  | _ => exact .literal h

/-- The fields of a standard kind have different names. -/
theorem nodup_fields_of_mem_standard : ∀ d ∈ Registry.standard.definitions,
    (d.shape.fields.map Prod.fst).Nodup := by
  rw [Registry.definitions_standard]
  decide

theorem Registry.shape?_of_get? {registry : Registry} {kind : String} {d : Definition}
    (h : registry.get? kind = some d) : registry.shape? kind = some d.shape := by
  rw [shape?, h, Option.map_some]

/-- What is proposed for a standard kind, field by field. -/
theorem exists_proposals {registry : Registry} {kind : String} {d : Definition}
    (hd : d ∈ Registry.standard.definitions) (hshape : registry.shape? kind = some d.shape)
    (w : Workspace) :
    ∃ proposals, proposals? registry w kind = some proposals ∧ ∀ field,
      proposals.get? field =
        (d.shape.field? field).bind (FieldKind.proposal? (.ofVariables w.declared "")) := by
  refine ⟨_, by rw [proposals?, hshape, Option.map_some], fun field => ?_⟩
  have hnames := nodup_fields_of_mem_standard d hd
  have hkeys := Dict.map_fst_filterMap_snd_sublist
    (FieldKind.proposal? (.ofVariables w.declared "")) d.shape.fields
  rw [Dict.get?_ofList, Dict.lookup_reverse_of_nodup field (hnames.sublist hkeys),
    Dict.lookup_filterMap_snd _ _ hnames]
  rfl

/-! ## Setting a field -/

theorem Workspace.refilled_setField (w : Workspace) (r : Ref) (field : String)
    (value : FieldValue) :
    w.Refilled (fun s b => if s = r then b.fields.insert field value else b.fields)
      (w.setField r field value) where
  block? s := by
    unfold setField modify Workspace.block?
    rw [Array.getElem?_modify]
    by_cases h : r = s
    · simp [h]
    · cases w.blocks[s]? <;> simp [h, Ne.symm h]
  size := Array.size_modify
  top := rfl

namespace Program

variable {p : Program}

/-- The same names are in use, and the declared variables have the identifiers of before. -/
def SameSteady (p : Program) (s s' : Scope) : Prop := s = s' ∧ s.Steady p

/-- Two ways to ask for a field are in lockstep if they have the same outcome. -/
theorem lockstep_variableField_of_run_eq {b : Block} {field : String} {g : Gen String}
    (h : ∀ s : Scope, s.Steady p → g.run.run s = (p.variableField b field : Gen String).run.run s) :
    Lockstep p.SameSteady Eq (p.variableField b field) g := by
  rintro s _ ⟨rfl, hs⟩
  obtain ⟨name, t, hrun, hgets⟩ := p.exists_gets_variableField b field s
  rw [h s hs, hrun]
  exact ⟨rfl, rfl, hgets.steady hs⟩

theorem fieldsAlike_self (b : Block) (w' : Workspace) :
    FieldsAlike p.SameSteady p { p with workspace := w' } b b where
  identifier _ := lockstep_variableField_of_run_eq fun _ _ => rfl
  text _ := rfl
  number _ := rfl

variable {b : Block} {field : String} (hunset : b.fields.get? field = none) {kind : FieldKind}
  (hkind : p.fieldKind? b field = some kind) {value : FieldValue}
  (hvalue : kind.StandsFor p.workspace.declared value)

include hunset hkind hvalue

theorem run_variableField_insert {s : Scope} (hs : s.Steady p) (name : String) :
    (p.variableField { b with fields := b.fields.insert field value } name : Gen String).run.run s =
      (p.variableField b name : Gen String).run.run s := by
  have hkinds : ∀ name,
      p.fieldKind? { b with fields := b.fields.insert field value } name = p.fieldKind? b name :=
    fun _ => rfl
  unfold variableField
  dsimp only
  rw [Dict.get?_insert, hkinds]
  by_cases hname : name = field
  · subst hname
    rw [if_pos rfl, hunset, hkind]
    cases hvalue with
    | literal hdefault =>
      rw [Option.bind_some, FieldKind.reference?_of_default? hdefault]
      cases kind with
      | reference tag initial => cases hdefault
      | _ => rfl
    | first hfirst =>
      dsimp only [Option.bind_some, Option.bind_none, FieldValue.reference?]
      rw [run_get_bind, Namespace.firstOfTag?, hs.declared, hfirst]
  · rw [if_neg hname]
    rfl

/-- A literal in a field is the one that the field stands for, if it is not set. -/
theorem answer_insert {α : Type} {view : FieldValue → Option α}
    (hview : ∀ id, view (.reference id) = none) (name : String) :
    (((b.fields.insert field value).get? name).bind view).or
        ((p.fieldDefault? b name).bind view) =
      ((b.fields.get? name).bind view).or ((p.fieldDefault? b name).bind view) := by
  rw [Dict.get?_insert]
  by_cases hname : name = field
  · subst hname
    have hdefault : p.fieldDefault? b name = kind.default? := by
      rw [fieldDefault?, hkind]
      rfl
    rw [if_pos rfl, hunset, hdefault]
    cases hvalue with
    | literal hvalue => rw [hvalue, Option.bind_none, Option.none_or, Option.or_self]
    | first _ => rw [Option.bind_some, hview, Option.bind_none]
  · rw [if_neg hname]

/-- A field answers alike before and after it is set to what it stands for. -/
theorem fieldsAlike_insert (w' : Workspace) :
    FieldsAlike p.SameSteady p { p with workspace := w' } b
      { b with fields := b.fields.insert field value } where
  identifier name := lockstep_variableField_of_run_eq fun _ hs =>
    run_variableField_insert hunset hkind hvalue hs name
  text name := congrArg (Option.getD · "")
    (answer_insert hunset hkind hvalue (fun _ => rfl) name).symm
  number name := congrArg (fun number => Literal.number (Option.getD number .zero))
    (answer_insert hunset hkind hvalue (fun _ => rfl) name).symm

/-- **The script stays the same** when a field is set to what it stands for. -/
theorem script_setField {r : Ref} (hb : p.workspace.block? r = some b) :
    ({ p with workspace := p.workspace.setField r field value } : Program).script = p.script := by
  refine script_refilled (p.workspace.refilled_setField r field value) (S := p.SameSteady)
    ⟨rfl, p.steady_initialScope⟩ fun s c hc => ?_
  by_cases hs : s = r
  · subst hs
    cases hc.symm.trans hb
    rw [if_pos rfl]
    exact fieldsAlike_insert hunset hkind hvalue _
  · rw [if_neg hs]
    exact fieldsAlike_self c _

end Program

/-! ## Findings -/

namespace Workspace

variable {w : Workspace}

theorem declared?_of_mem (hids : (w.declared.map Variable.id).Nodup) {v : Variable}
    (hv : v ∈ w.declared) : w.declared? v.id = some v := by
  obtain ⟨u, hu⟩ : ∃ u, w.declared? v.id = some u :=
    Option.isSome_iff_exists.1 (List.find?_isSome.2 ⟨v, hv, beq_self_eq_true v.id⟩)
  have hid := List.find?_some hu
  rw [hu, List.inj_on_of_nodup_map hids (List.mem_of_find?_eq_some hu) hv (beq_iff_eq.1 hid)]

/-- Nothing is found about a field that is set to what it stands for. -/
theorem checkField?_of_standsFor (hids : (w.declared.map Variable.id).Nodup) {shape : Shape}
    {field : String} {kind : FieldKind} (hkind : shape.field? field = some kind)
    {value : FieldValue} (hvalue : kind.StandsFor w.declared value) (b : Block) :
    checkField? w shape b field value = none := by
  cases hvalue with
  | literal hdefault =>
    have hreference := FieldKind.reference?_of_default? hdefault
    cases value with
    | reference id => cases hreference
    | _ => rfl
  | @first tag fallback v hfirst =>
    have htag := List.find?_some hfirst
    have hdeclared : w.declared? v.id = some v :=
      declared?_of_mem hids (List.mem_of_find?_eq_some hfirst)
    simp only [checkField?, hkind, hdeclared, if_pos (beq_iff_eq.1 htag)]

/-- **The findings stay the same** when a field is set to what it stands for. -/
theorem check_setField {registry : Registry} (hw : w.WellLinked registry.shape?)
    (hids : (w.declared.map Variable.id).Nodup) {r : Ref} {b : Block} (hb : w.block? r = some b)
    {field : String} (hunset : b.fields.get? field = none) {shape : Shape}
    (hshape : registry.shape? b.kind = some shape) {kind : FieldKind}
    (hkind : shape.field? field = some kind) {value : FieldValue}
    (hvalue : kind.StandsFor w.declared value) :
    (w.setField r field value).check registry = w.check registry := by
  refine check_refilled (w.refilled_setField r field value) registry hw.holdsValues
    fun s c shape' hc hshape' => ?_
  have hcheck : checkField? (w.setField r field value) shape' c = checkField? w shape' c := rfl
  rw [hcheck]
  by_cases hs : s = r
  · subst hs
    cases hc.symm.trans hb
    cases hshape'.symm.trans hshape
    rw [if_pos rfl]
    exact Dict.filterMap_entries_insert hunset (checkField?_of_standsFor hids hkind hvalue b)
  · rw [if_neg hs]

end Workspace

/-! ## What is proposed changes nothing -/

/-- **Setting a field to what is proposed changes nothing.** In every workspace that is parsed, if a
field of a block of a standard kind is not set and nothing has to be created for it, then neither
the script nor the findings change when it is set to what is proposed for the kind. -/
theorem script_setField_proposal (registry : Registry) (options : ScriptOptions) (text : String)
    (w : Workspace) (h : (parse registry.shape? text).workspace = some w) (r : Ref) (b : Block)
    (hb : w.block? r = some b) (d : Definition) (hd : d ∈ Registry.standard.definitions)
    (hkind : registry.get? b.kind = some d) :
    ∃ proposals script findings, proposals? registry w b.kind = some proposals ∧
      ({ workspace := w, registry, options } : Program).script = .ok script ∧
      w.check registry = .ok findings ∧
      ∀ field value, b.fields.get? field = none →
        (proposals.get? field).bind Proposal.value? = some value →
        ({ workspace := w.setField r field value, registry, options } : Program).script =
            .ok script ∧
          (w.setField r field value).check registry = .ok findings := by
  have hw := wellLinked_of_parse h
  have hshape := Registry.shape?_of_get? hkind
  obtain ⟨proposals, hproposals, hget⟩ := exists_proposals hd hshape w
  obtain ⟨script, hscript⟩ := exists_script_of_parse h options
  refine ⟨proposals, script, _, hproposals, hscript, Workspace.check_eq registry hw.holdsValues, ?_⟩
  intro field value hunset hvalue
  rw [hget] at hvalue
  obtain ⟨proposal, hproposal, hvalue⟩ := Option.bind_eq_some_iff.1 hvalue
  obtain ⟨kind, hfield, hproposal⟩ := Option.bind_eq_some_iff.1 hproposal
  have hstands : kind.StandsFor w.declared value := by
    rw [← Namespace.declared_ofVariables w.declared ""]
    refine FieldKind.standsFor_of_proposal? ?_
    rw [hproposal, Option.bind_some, hvalue]
  constructor
  · rw [← hscript]
    refine Program.script_setField (p := { workspace := w, registry, options }) hunset ?_ hstands
      hb
    rw [Program.fieldKind?, Program.definition?, hkind]
    exact hfield
  · rw [← Workspace.check_eq registry hw.holdsValues]
    exact Workspace.check_setField hw (nodup_declared_of_parse h) hb hunset hshape hfield hstands

/-- A statement that sets a mass, of no shape in particular, to no number in particular. The second
variable is a shape. -/
def ballText : String :=
  "[[0, [[\"set_mass\", \"a\", true, \x7b\x7d, \x7b\"MASS\": [[\"math_number\"]]\x7d]]], " ++
    "[[\"l\", \"lamp\", \"LIGHT\"], [\"s\", \"ball\", \"SHAPE\"]]]"

theorem script_setField_proposal_ballText :
    ∃ w, (parse Registry.standard.shape? ballText).workspace = some w ∧
      (w.block? 0).map (fun b => (b.kind, b.fields.get? "VAR")) = some ("set_mass", none) ∧
      (proposals? .standard w "set_mass").bind (·.get? "VAR") =
        some (.existing ⟨"s", "ball", .shape⟩) ∧
      (w.block? 1).map (fun b => (b.kind, b.fields.get? "NUM")) = some ("math_number", none) ∧
      (proposals? .standard w "math_number").bind (·.get? "NUM") =
        some (.literal (.number .zero)) ∧
      ∀ w' ∈ [w, w.setField 0 "VAR" (.reference "s"), w.setField 1 "NUM" (.number .zero)],
        ({ workspace := w', registry := .standard } : Program).script =
            .ok "threeD.setMass(ball, 0);" ∧
          w'.check .standard = .ok {} := by
  have hchars : ballText.toList = _ :=
    Json.toList_append_of String.toList_ofList String.toList_ofList
  have hparse : ((parse Registry.standard.shape? ballText).workspace.map fun w => decide
      ((w.block? 0).map (fun b => (b.kind, b.fields.get? "VAR")) = some ("set_mass", none) ∧
        (proposals? .standard w "set_mass").bind (·.get? "VAR") =
          some (.existing ⟨"s", "ball", .shape⟩) ∧
        (w.block? 1).map (fun b => (b.kind, b.fields.get? "NUM")) = some ("math_number", none) ∧
        (proposals? .standard w "math_number").bind (·.get? "NUM") =
          some (.literal (.number .zero)) ∧
        ({ workspace := w, registry := .standard } : Program).script =
          .ok "threeD.setMass(ball, 0);" ∧
        w.check .standard = .ok {})) = some true := by
    rw [parse, Document.ofText, Json.decodeText, Json.Draft.ofText_of_toList hchars]
    decide +kernel
  obtain ⟨w, hw, hfacts⟩ := Option.map_eq_some_iff.1 hparse
  obtain ⟨hmass, hball, hnumber, hzero, hscript, hcheck⟩ := of_decide_eq_true hfacts
  refine ⟨w, hw, hmass, hball, hnumber, hzero, ?_⟩
  obtain ⟨b, hb, hmass⟩ := Option.map_eq_some_iff.1 hmass
  obtain ⟨c, hc, hnumber⟩ := Option.map_eq_some_iff.1 hnumber
  obtain ⟨hkind, hvar⟩ := Prod.mk.inj hmass
  obtain ⟨hkind', hnum⟩ := Prod.mk.inj hnumber
  obtain ⟨proposals, script, findings, hproposals, hscript₁, hcheck₁, hset⟩ :=
    script_setField_proposal .standard {} ballText w hw 0 b hb Kinds.setMass
      (by simp [Registry.definitions_standard, Kinds.standard]) (by rw [hkind]; rfl)
  obtain ⟨proposals', script', findings', hproposals', hscript₂, hcheck₂, hset'⟩ :=
    script_setField_proposal .standard {} ballText w hw 1 c hc Kinds.mathNumber
      (by simp [Registry.definitions_standard, Kinds.standard]) (by rw [hkind']; rfl)
  rw [hkind] at hproposals
  rw [hkind'] at hproposals'
  rw [hproposals, Option.bind_some] at hball
  rw [hproposals', Option.bind_some] at hzero
  cases hscript₁.symm.trans hscript
  cases hscript₂.symm.trans hscript
  cases hcheck₁.symm.trans hcheck
  cases hcheck₂.symm.trans hcheck
  simp only [List.forall_mem_cons, List.not_mem_nil, false_implies, implies_true, and_true]
  exact ⟨⟨hscript, hcheck⟩, hset "VAR" (.reference "s") hvar (by rw [hball]; rfl),
    hset' "NUM" (.number .zero) hnum (by rw [hzero]; rfl)⟩

end SceneScript
