import SceneScript.Proofs.Parsed
import SceneScript.Proofs.Quiet
import SceneScript.Proofs.Refilling
import SceneScript.Proposal

/-!
# Renaming the ids of variables

The id of a variable ties fields to declarations and serves for nothing else: identifiers are made
from names. If every field refers to a declared variable, then the ids can be renamed throughout,
and a script is generated in the same steps from renamed names in use.

* `Workspace.renamed`, `Scope.renamed`: other ids in a workspace, and in the names in use.
* `Scope.Renames`: the relation between the names in use that all steps keep.
* **`script_renamed`**: ids can be renamed without a trace in the script or in what is proposed.
-/

namespace SceneScript

variable (rename : String → String)

/-! ## Other ids -/

/-- The variable under another id. -/
def Variable.renamed (v : Variable) : Variable := { v with id := rename v.id }

/-- The value of a field under other ids. -/
def FieldValue.renamed : FieldValue → FieldValue
  | .reference id => .reference (rename id)
  | value => value

/-- The block with other ids in its fields. -/
def Block.renamed (b : Block) : Block :=
  { b with fields := b.fields.mapEntries fun _ => FieldValue.renamed rename }

/-- The workspace with other ids of variables, in the declarations and in all fields. -/
def Workspace.renamed (w : Workspace) : Workspace :=
  { w with
    blocks := w.blocks.map (Block.renamed rename)
    declared := w.declared.map (Variable.renamed rename) }

/-- What is proposed, under other ids. -/
def Proposal.renamed : Proposal → Proposal
  | .existing v => .existing (v.renamed rename)
  | proposal => proposal

/-- The names in use, with other ids. -/
def Namespace.renamed (names : Namespace) : Namespace :=
  { names with
    declared := names.declared.map (Variable.renamed rename)
    bound := names.bound.map fun entry => (rename entry.1, entry.2) }

/-- The names in use while a script is generated, with other ids. -/
def Scope.renamed (s : Scope) : Scope := { s with names := s.names.renamed rename }

variable {rename}

/-! ## Namespaces -/

namespace Namespace

variable {names : Namespace}

theorem declaredNames_renamed : (names.renamed rename).declaredNames = names.declaredNames :=
  List.map_map

theorem firstOfTag?_renamed (tag : SocketTag) : (names.renamed rename).firstOfTag? tag =
    (names.firstOfTag? tag).map (Variable.renamed rename) :=
  List.find?_map

theorem uniqueName_renamed (stem : String) :
    (names.renamed rename).uniqueName stem = names.uniqueName stem := by
  rw [uniqueName, declaredNames_renamed, uniqueName]

theorem claim_renamed (stem : String) : (names.renamed rename).claim stem =
    ((names.claim stem).1, (names.claim stem).2.renamed rename) := by
  unfold claim
  rw [declaredNames_renamed]
  rfl

theorem bindAll_renamed (names : Namespace) (vars : List Variable) :
    (names.renamed rename).bindAll (vars.map (Variable.renamed rename)) =
      (names.bindAll vars).renamed rename := by
  induction vars generalizing names with
  | nil => rfl
  | cons v rest ih => exact ih (names.bind v.id v.name).2

/-- Declared variables get the same identifiers under other ids. -/
theorem ofVariables_renamed (declared : List Variable) (runtime : String) :
    ofVariables (declared.map (Variable.renamed rename)) runtime =
      (ofVariables declared runtime).renamed rename :=
  bindAll_renamed { declared, runtime } declared

theorem mem_bound_bindAll {entry : String × String} (vars : List Variable)
    (h : entry ∈ (names.bindAll vars).bound) :
    entry ∈ names.bound ∨ ∃ v ∈ vars, v.id = entry.1 := by
  induction vars generalizing names with
  | nil => exact .inl h
  | cons v rest ih =>
    rcases ih h with hbound | ⟨u, hu, hid⟩
    · rcases List.mem_cons.1 hbound with rfl | hbound
      · exact .inr ⟨v, List.mem_cons_self, rfl⟩
      · exact .inl hbound
    · exact .inr ⟨u, List.mem_cons_of_mem v hu, hid⟩

end Namespace

/-! ## Scripts -/

theorem Workspace.refilled_renamed (w : Workspace) :
    w.Refilled (fun _ b => (b.renamed rename).fields) (w.renamed rename) where
  block? _ := Array.getElem?_map
  size := Array.size_map
  top := rfl

/-- The names in use are those of another run with other ids, and these belong to variables. -/
structure Scope.Renames (rename : String → String) (p : Program) (s s' : Scope) : Prop where
  renamed : s' = s.renamed rename
  steady : s.Steady p
  bound : ∀ entry ∈ s.names.bound, ∃ v ∈ p.workspace.declared, v.id = entry.1

namespace Program

variable {p : Program}

theorem renames_initialScope : p.initialScope.Renames rename p
    ({ p with workspace := p.workspace.renamed rename } : Program).initialScope where
  renamed := congrArg (Scope.mk · []) (Namespace.ofVariables_renamed _ _)
  steady := p.steady_initialScope
  bound := fun _ hentry =>
    (Namespace.mem_bound_bindAll p.workspace.declared hentry).resolve_left List.not_mem_nil

theorem lockstep_freshName_renamed (b : Block) (field stem : String) :
    Lockstep (Scope.Renames rename p) Eq (freshName b field stem)
      (freshName (b.renamed rename) field stem) := by
  rintro s _ ⟨rfl, hsteady, hbound⟩
  have hfresh : (s.renamed rename).fresh.lookup ((b.renamed rename).id, field) =
      s.fresh.lookup (b.id, field) := rfl
  rw [freshName, freshName, run_get_bind, run_get_bind, hfresh]
  cases s.fresh.lookup (b.id, field) with
  | some name => exact ⟨rfl, rfl, hsteady, hbound⟩
  | none =>
    have hclaim : (s.renamed rename).names.claim stem =
        ((s.names.claim stem).1, (s.names.claim stem).2.renamed rename) :=
      Namespace.claim_renamed stem
    dsimp only
    rw [hclaim]
    exact ⟨rfl, rfl, hsteady.answer (.claim stem) _, hbound⟩

variable (hrename : ∀ v ∈ p.workspace.declared, ∀ v' ∈ p.workspace.declared,
  rename v.id = rename v'.id → v.id = v'.id)

include hrename

theorem lockstep_resolve_renamed {v : Variable} (hv : v ∈ p.workspace.declared) :
    Lockstep (Scope.Renames rename p) Eq (resolve v.id) (resolve (rename v.id)) := by
  intro s s' hs
  have hlookup : s'.names.bound.lookup (rename v.id) = some (p.identifierOf v) := by
    rw [hs.renamed, ← hs.steady.lookup hv]
    refine Dict.lookup_map_fst fun entry hentry heq => ?_
    obtain ⟨u, hu, hid⟩ := hs.bound entry hentry
    rw [← hid] at heq ⊢
    exact hrename u hu v hv heq
  have hresolve : s'.names.resolve (rename v.id) = (p.identifierOf v, s'.names) := by
    rw [Namespace.resolve, hlookup]
  rw [run_resolve, run_resolve, hs.steady.resolve_eq hv, hresolve]
  exact ⟨rfl, hs⟩

/-- A field of variables gets the same identifier under other ids. -/
theorem lockstep_variableField_renamed {b : Block} (hb : p.workspace.NamesDeclared b)
    (field : String) : Lockstep (Scope.Renames rename p) Eq (p.variableField b field)
      (({ p with workspace := p.workspace.renamed rename } : Program).variableField
        (b.renamed rename) field) := by
  have hset : ((b.renamed rename).fields.get? field).bind FieldValue.reference? =
      ((b.fields.get? field).bind FieldValue.reference?).map rename := by
    rw [Block.renamed, Dict.get?_mapEntries]
    cases b.fields.get? field with
    | none => rfl
    | some value => cases value <;> rfl
  have hkind : ({ p with workspace := p.workspace.renamed rename } : Program).fieldKind?
      (b.renamed rename) field = p.fieldKind? b field := rfl
  unfold variableField
  rw [hset, hkind]
  cases hid : (b.fields.get? field).bind FieldValue.reference? with
  | some id =>
    obtain ⟨v, hv, rfl⟩ := hb field id hid
    exact lockstep_resolve_renamed hrename hv
  | none =>
    cases p.fieldKind? b field with
    | none => exact lockstep_pure rfl
    | some kind =>
      cases kind with
      | reference tag initial =>
        cases initial with
        | fresh stem => exact lockstep_freshName_renamed b field stem
        | first fallback =>
          intro s s' hs
          have hfirst : s'.names.firstOfTag? tag =
              (s.names.firstOfTag? tag).map (Variable.renamed rename) := by
            rw [hs.renamed]
            exact Namespace.firstOfTag?_renamed tag
          dsimp only [Option.map_none]
          rw [run_get_bind, run_get_bind, hfirst]
          cases hv : s.names.firstOfTag? tag with
          | none => exact ⟨rfl, hs⟩
          | some v =>
            rw [Namespace.firstOfTag?, hs.steady.declared] at hv
            exact lockstep_resolve_renamed hrename (List.mem_of_find?_eq_some hv) s s' hs
      | _ => exact lockstep_pure rfl

theorem fieldsAlike_renamed {b : Block} (hb : p.workspace.NamesDeclared b) :
    FieldsAlike (Scope.Renames rename p) p { p with workspace := p.workspace.renamed rename } b
      (b.renamed rename) := by
  have hview : ∀ {α : Type} (view : FieldValue → Option α),
      (∀ value, view (value.renamed rename) = view value) → ∀ field,
        (b.fields.get? field).bind view = ((b.renamed rename).fields.get? field).bind view := by
    intro α view hview field
    rw [Block.renamed, Dict.get?_mapEntries, Option.bind_map]
    exact congrArg (Option.bind _) (funext fun value => (hview value).symm)
  constructor
  · exact lockstep_variableField_renamed hrename hb
  · intro field
    unfold fieldText
    rw [hview FieldValue.text? (fun value => by cases value <;> rfl)]
    rfl
  · intro field
    unfold fieldNumber
    rw [hview FieldValue.number? (fun value => by cases value <;> rfl)]
    rfl

end Program

/-! ## What is proposed -/

theorem FieldKind.proposal?_renamed (kind : FieldKind) (names : Namespace) :
    kind.proposal? (names.renamed rename) =
      (kind.proposal? names).map (Proposal.renamed rename) := by
  cases kind with
  | reference tag initial =>
    cases initial with
    | fresh stem =>
      simp only [proposal?, Namespace.uniqueName_renamed]
      rfl
    | first fallback =>
      simp only [proposal?, Namespace.firstOfTag?_renamed]
      cases names.firstOfTag? tag <;> rfl
  | dropdown options => cases options <;> rfl
  | _ => rfl

/-- The same is proposed under other ids. -/
theorem proposals?_renamed (registry : Registry) (w : Workspace) (kind : String) :
    proposals? registry (w.renamed rename) kind =
      (proposals? registry w kind).map (·.mapEntries fun _ => Proposal.renamed rename) := by
  unfold proposals?
  rw [Option.map_map]
  refine congrArg (Option.map · (registry.shape? kind)) (funext fun shape => ?_)
  have hnames : Namespace.ofVariables (w.renamed rename).declared "" =
      (Namespace.ofVariables w.declared "").renamed rename :=
    Namespace.ofVariables_renamed w.declared ""
  dsimp only [Function.comp_apply]
  rw [← Dict.ofList_map_snd, List.map_filterMap, hnames]
  simp only [FieldKind.proposal?_renamed, Option.map_map, Function.comp_def]

/-! ## Ids leave no trace -/

/-- **Ids leave no trace.** If no undeclared variable is found in a workspace that is parsed, then
its variables can get any other ids that are different: the script stays the same, and the same is
proposed for the fields of a new block. -/
theorem script_renamed (registry : Registry) (options : ScriptOptions) (text : String)
    (w : Workspace) (h : (parse registry.shape? text).workspace = some w) (findings : Diagnostics)
    (hcheck : w.check registry = .ok findings) (hfindings : ∀ d ∈ findings.warnings, d.code ≠ 301)
    (rename : String → String)
    (hrename : ∀ v ∈ w.declared, ∀ v' ∈ w.declared, rename v.id = rename v'.id → v.id = v'.id) :
    (∃ script, ({ workspace := w, registry, options } : Program).script = .ok script ∧
      ({ workspace := w.renamed rename, registry, options } : Program).script = .ok script) ∧
    ∀ kind, proposals? registry (w.renamed rename) kind =
      (proposals? registry w kind).map (·.mapEntries fun _ => Proposal.renamed rename) := by
  refine ⟨?_, proposals?_renamed registry w⟩
  obtain ⟨script, hscript⟩ := exists_script_of_parse h options
  have hw := wellLinked_of_parse h
  have hsame := Program.script_refilled (p := { workspace := w, registry, options })
    w.refilled_renamed Program.renames_initialScope fun r b hb =>
      Program.fieldsAlike_renamed hrename (hw.namesDeclared hcheck hfindings hb)
  exact ⟨script, hscript, hsame.trans hscript⟩

/-- Two statements that set a mass: of the second variable, and of no shape in particular. -/
def swappedText : String :=
  "[[0, [[\"set_mass\", \"c\", true, \x7b\"VAR\": \"b\"\x7d], [\"set_mass\"]]], " ++
    "[[\"a\", \"cup\", \"SHAPE\"], [\"b\", \"ball\", \"SHAPE\"]]]"

/-- Swaps the ids of the two variables. -/
def swapIds (id : String) : String := if id = "a" then "b" else if id = "b" then "a" else id

theorem script_renamed_swappedText :
    ∃ w, (parse Registry.standard.shape? swappedText).workspace = some w ∧
      w.check .standard = .ok {} ∧
      (w.renamed swapIds).declared = [⟨"b", "cup", .shape⟩, ⟨"a", "ball", .shape⟩] ∧
      ({ workspace := w, registry := .standard } : Program).script =
        .ok "threeD.setMass(ball, 1);\nthreeD.setMass(cup, 1);" ∧
      ({ workspace := w.renamed swapIds, registry := .standard } : Program).script =
        .ok "threeD.setMass(ball, 1);\nthreeD.setMass(cup, 1);" ∧
      (proposals? .standard w "set_mass").bind (·.get? "VAR") =
        some (.existing ⟨"a", "cup", .shape⟩) ∧
      (proposals? .standard (w.renamed swapIds) "set_mass").bind (·.get? "VAR") =
        some (.existing ⟨"b", "cup", .shape⟩) := by
  have hchars : swappedText.toList = _ :=
    Json.toList_append_of String.toList_ofList String.toList_ofList
  have hparse : ((parse Registry.standard.shape? swappedText).workspace.map fun w => decide
      (w.check .standard = .ok {} ∧
        (w.renamed swapIds).declared = [⟨"b", "cup", .shape⟩, ⟨"a", "ball", .shape⟩] ∧
        (∀ v ∈ w.declared, ∀ v' ∈ w.declared, swapIds v.id = swapIds v'.id → v.id = v'.id) ∧
        ({ workspace := w, registry := .standard } : Program).script =
          .ok "threeD.setMass(ball, 1);\nthreeD.setMass(cup, 1);" ∧
        (proposals? .standard w "set_mass").bind (·.get? "VAR") =
          some (.existing ⟨"a", "cup", .shape⟩))) = some true := by
    rw [parse, Document.ofText, Json.decodeText, Json.Draft.ofText_of_toList hchars]
    decide +kernel
  obtain ⟨w, hw, hfacts⟩ := Option.map_eq_some_iff.1 hparse
  obtain ⟨hcheck, hdeclared, hinjective, hswapped, hcup⟩ := of_decide_eq_true hfacts
  obtain ⟨⟨script, hscript, hscript'⟩, hproposals⟩ :=
    script_renamed .standard {} swappedText w hw {} hcheck (by simp) swapIds hinjective
  rw [hscript] at hswapped
  cases hswapped
  refine ⟨w, hw, hcheck, hdeclared, hscript, hscript', hcup, ?_⟩
  obtain ⟨proposals, hset, hcup⟩ := Option.bind_eq_some_iff.1 hcup
  rw [hproposals, hset, Option.map_some, Option.bind_some, Dict.get?_mapEntries, hcup]
  rfl

end SceneScript
