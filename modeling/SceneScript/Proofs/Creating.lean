import SceneScript.Proofs.Filling

/-!
# Creating the variables that are proposed

For some fields of a new block the editor has to create a variable. A field that creates variables
anyway proposes a name that is free. A field that picks a variable proposes a fixed name when there
is none of its tag, and does not look whether that name is free. So creating all that is proposed
can spoil a workspace, and it is stated here exactly when.

* `Proposal.created?`, `created`: the variables that have to be created.
* `Declares`, `NewNames`: how they are declared, and what their names have to be.
* `Shape.FixedNamesFree`: the fixed names that are needed are free.
* **`isSome_link_created_iff`**: when a document is still accepted with all that is proposed.
* **`spoils_fixedName`**: two documents that are not.
-/

namespace SceneScript

/-- The name and the tag of the variable that has to be created. -/
def Proposal.created? : Proposal → Option (String × SocketTag)
  | .create name tag => some (name, tag)
  | _ => none

/-- The names and tags of all variables that have to be created. -/
def created (proposals : Dict Proposal) : List (String × SocketTag) :=
  proposals.entries.filterMap fun entry => entry.2.created?

/-- The document with more variables declared after the others. -/
def Document.declaring (document : Document) (declarations : List Declaration) : Document :=
  { document with declarations := document.declarations ++ declarations }

/-- The declarations are of these names and tags, in any order. -/
def Declares (declarations : List Declaration) (wanted : List (String × SocketTag)) : Prop :=
  (declarations.map fun v => (v.name, SocketTag.ofName? v.type)).Perm
    (wanted.map fun v => (v.1, some v.2))

/-- The names are different, and none of them is the name of a variable. -/
def NewNames (declared : List Variable) (names : List String) : Prop :=
  names.Nodup ∧ ∀ name ∈ names, name ∉ declared.map Variable.name

/-- No variable has the fixed name of a field that picks a variable of a tag, unless there is one of
that tag to pick. -/
def Shape.FixedNamesFree (declared : List Variable) (shape : Shape) : Prop :=
  ∀ field tag fallback, shape.field? field = some (.reference tag (.first fallback)) →
    (∀ v ∈ declared, v.tag ≠ tag) → fallback ∉ declared.map Variable.name

/-! ## More declarations -/

namespace Declares

variable {declarations : List Declaration} {wanted : List (String × SocketTag)}
  (h : Declares declarations wanted)

include h

theorem names_perm : (declarations.map Declaration.name).Perm (wanted.map Prod.fst) := by
  have hnames := h.map Prod.fst
  rwa [List.map_map, List.map_map] at hnames

theorem known_tags : ∀ v ∈ declarations, (SocketTag.ofName? v.type).isSome := by
  intro v hv
  have hmem := h.subset (List.mem_map_of_mem hv)
  obtain ⟨c, -, hc⟩ := List.mem_map.1 hmem
  rw [← (Prod.mk.inj hc).2]
  rfl

end Declares

namespace Document

variable {catalog : Catalog} {document : Document}

/-- A document is still accepted with more variables exactly if their names are new. -/
theorem isSome_link_declaring_iff {w : Workspace}
    (h : (link catalog document).workspace = some w) {declarations : List Declaration}
    {wanted : List (String × SocketTag)} (hdeclares : Declares declarations wanted)
    (hids : (w.declared.map Variable.id ++ declarations.map Declaration.id).Nodup) :
    (link catalog (document.declaring declarations)).workspace.isSome ↔
      NewNames w.declared (wanted.map Prod.fst) := by
  obtain ⟨hgrammar, rfl⟩ := link_workspace_eq_some_iff.1 h
  have hnew : NewNames (document.workspace catalog).declared (wanted.map Prod.fst) ↔
      ((document.declaring declarations).declarations.map Declaration.name).Nodup := by
    have hperm := hdeclares.names_perm
    rw [declaring, List.map_append, List.nodup_append', hperm.nodup_iff,
      and_iff_right hgrammar.distinct_variable_names, NewNames, map_name_declared hgrammar]
    refine and_congr_right fun _ => ?_
    constructor
    · intro hfree name hname hmem
      exact hfree name (hperm.subset hmem) hname
    · intro hdisjoint name hmem hname
      exact hdisjoint hname (hperm.symm.subset hmem)
  rw [Option.isSome_iff_exists, hnew]
  constructor
  · rintro ⟨w', hw'⟩
    exact (link_workspace_eq_some_iff.1 hw').1.distinct_variable_names
  · intro hnames
    refine ⟨_, link_workspace_eq_some_iff.2 ⟨?_, rfl⟩⟩
    exact { hgrammar with
      known_tags := fun v hv => by
        rcases List.mem_append.1 hv with hv | hv
        · exact hgrammar.known_tags v hv
        · exact hdeclares.known_tags v hv
      distinct_variable_ids := by
        rw [map_id_declared hgrammar] at hids
        rwa [declaring, List.map_append]
      distinct_variable_names := hnames }

end Document

/-! ## What is created -/

theorem Namespace.uniqueName_not_mem (names : Namespace) (stem : String) :
    names.uniqueName stem ∉ names.declaredNames :=
  firstFree_not_mem _ (freshCandidate_injective stem)

namespace FieldKind

/-- A field of a kind creates a variable of a name and a tag. -/
inductive Creates (names : Namespace) : FieldKind → String → SocketTag → Prop
  /-- The name of a field that creates variables is free. -/
  | fresh {tag : SocketTag} {stem : String} :
    Creates names (.reference tag (.fresh stem)) (names.uniqueName stem) tag
  /-- A field that has no variable to pick has a fixed name. -/
  | fixed {tag : SocketTag} {name : String} (h : ∀ v ∈ names.declared, v.tag ≠ tag) :
    Creates names (.reference tag (.first name)) name tag

variable {names : Namespace} {kind kind' : FieldKind} {name : String} {tag tag' : SocketTag}

theorem creates_iff : kind.Creates names name tag ↔
    (kind.proposal? names).bind Proposal.created? = some (name, tag) := by
  constructor
  · intro h
    cases h with
    | fresh => rfl
    | fixed h =>
      have hnone : names.firstOfTag? tag = none :=
        List.find?_eq_none.2 fun v hv htag => h v hv (beq_iff_eq.1 htag)
      simp only [proposal?, hnone, Option.bind_some, Proposal.created?]
  · intro h
    cases kind with
    | reference tag₀ initial =>
      cases initial with
      | fresh stem =>
        cases h
        exact .fresh
      | first fallback =>
        unfold proposal? at h
        cases hfirst : names.firstOfTag? tag₀ with
        | some v => simp [hfirst, Proposal.created?] at h
        | none =>
          simp only [hfirst, Option.bind_some, Proposal.created?, Option.some.injEq,
            Prod.mk.injEq] at h
          obtain ⟨rfl, rfl⟩ := h
          exact .fixed fun v hv htag => List.find?_eq_none.1 hfirst v hv (beq_iff_eq.2 htag)
    | dropdown options =>
      simp [proposal?, Option.bind_map, Function.comp_def, Proposal.created?] at h
    | _ => cases h

/-- Two fields can create variables of the same name. -/
def meets : FieldKind → FieldKind → Bool
  | .reference _ (.first fallback), .reference _ (.first fallback') => fallback == fallback'
  | .reference _ _, .reference _ _ => true
  | _, _ => false

theorem Creates.exists_reference (h : kind.Creates names name tag) :
    ∃ initial, kind = .reference tag initial ∧ ∀ fallback, initial = .first fallback →
      fallback = name := by
  cases h with
  | fresh => exact ⟨_, rfl, fun _ h => by cases h⟩
  | fixed => exact ⟨_, rfl, fun _ h => (VariableDefault.first.inj h).symm⟩

theorem Creates.meets (h : kind.Creates names name tag) (h' : kind'.Creates names name tag') :
    kind.meets kind' = true := by
  obtain ⟨initial, rfl, hname⟩ := h.exists_reference
  obtain ⟨initial', rfl, hname'⟩ := h'.exists_reference
  cases initial with
  | fresh stem => cases initial' <;> rfl
  | first fallback =>
    cases initial' with
    | fresh stem => rfl
    | first fallback' => exact beq_iff_eq.2 ((hname _ rfl).trans (hname' _ rfl).symm)

end FieldKind

/-! ## Standard kinds -/

/-- The fields of a standard kind create variables of different names, with one exception. -/
theorem eq_of_meets_of_mem_standard : ∀ d ∈ Registry.standard.definitions,
    d.shape.kind ≠ "create_shape_and_add_to" → ∀ e ∈ d.shape.fields, ∀ e' ∈ d.shape.fields,
      e.2.meets e'.2 = true → e.1 = e'.1 := by
  rw [Registry.definitions_standard]
  decide

theorem fields_of_mem_standard : ∀ d ∈ Registry.standard.definitions,
    d.shape.kind = "create_shape_and_add_to" → d.shape.fields =
      [("VAR", .reference .shape (.fresh "shape")),
        ("PARENT", .reference .shape (.first "shape_1"))] := by
  rw [Registry.definitions_standard]
  decide

/-- A field of a shape creates a variable of a name. -/
def Shape.Creates (declared : List Variable) (shape : Shape) (field name : String) : Prop :=
  ∃ kind tag, shape.field? field = some kind ∧ kind.Creates (.ofVariables declared "") name tag

theorem newNames_created_iff {declared : List Variable} {shape : Shape} {proposals : Dict Proposal}
    (hget : ∀ field, proposals.get? field =
      (shape.field? field).bind (FieldKind.proposal? (.ofVariables declared ""))) :
    NewNames declared ((created proposals).map Prod.fst) ↔
      (∀ field name, shape.Creates declared field name → name ∉ declared.map Variable.name) ∧
      ∀ field field' name, shape.Creates declared field name →
        shape.Creates declared field' name → field = field' := by
  have hcreates : ∀ field name, shape.Creates declared field name ↔
      (proposals.get? field).bind (fun p => p.created?.map Prod.fst) = some name := by
    intro field name
    simp only [Shape.Creates, FieldKind.creates_iff, hget, Option.bind_eq_some_iff,
      Option.map_eq_some_iff, Prod.exists]
    constructor
    · rintro ⟨kind, tag, hkind, proposal, hproposal, hcreated⟩
      exact ⟨proposal, ⟨kind, hkind, hproposal⟩, name, tag, hcreated, rfl⟩
    · rintro ⟨proposal, ⟨kind, hkind, hproposal⟩, _, tag, hcreated, rfl⟩
      exact ⟨kind, tag, hkind, proposal, hproposal, hcreated⟩
  have hnames : (created proposals).map Prod.fst =
      proposals.entries.filterMap fun entry => entry.2.created?.map Prod.fst := List.map_filterMap
  have hmem : ∀ name, name ∈ (created proposals).map Prod.fst ↔
      ∃ field, shape.Creates declared field name := by
    intro name
    simp only [hnames, List.mem_filterMap, hcreates, Option.bind_eq_some_iff, Prod.exists,
      Dict.get?_eq_some_iff]
  rw [NewNames, and_comm]
  refine and_congr ?_ ?_
  · simp only [hmem, forall_exists_index]
    exact forall_comm
  · rw [hnames, Dict.nodup_filterMap_entries_iff (f := fun p : Proposal => p.created?.map Prod.fst)]
    simp only [hcreates]

/-- The names that are created are free exactly if the fixed names among them are. -/
theorem creates_not_mem_iff {declared : List Variable} {shape : Shape} :
    (∀ field name, shape.Creates declared field name → name ∉ declared.map Variable.name) ↔
      shape.FixedNamesFree declared := by
  have hdeclared := Namespace.declared_ofVariables declared ""
  constructor
  · intro h field tag fallback hfield hnone
    refine h field fallback ⟨_, tag, hfield, .fixed ?_⟩
    rwa [hdeclared]
  · rintro h field name ⟨kind, tag, hfield, hcreates⟩
    cases hcreates with
    | @fresh _ stem =>
      have hfree := (Namespace.ofVariables declared "").uniqueName_not_mem stem
      rwa [Namespace.declaredNames, hdeclared] at hfree
    | fixed hnone =>
      rw [hdeclared] at hnone
      exact h field tag name hfield hnone

section TwoFields

variable {declared : List Variable} {shape : Shape}
  (hfields : shape.fields = [("VAR", .reference .shape (.fresh "shape")),
    ("PARENT", .reference .shape (.first "shape_1"))])

include hfields

/-- If there is no shape and the fixed name is free, then both fields create a variable of it. -/
theorem creates_twice (hnone : ∀ v ∈ declared, v.tag ≠ .shape)
    (hfree : "shape_1" ∉ declared.map Variable.name) :
    shape.Creates declared "VAR" "shape_1" ∧ shape.Creates declared "PARENT" "shape_1" := by
  have hdeclared := Namespace.declared_ofVariables declared ""
  have hunique : (Namespace.ofVariables declared "").uniqueName "shape" = "shape_1" := by
    have hcandidate : freshCandidate "shape" 0 = "shape_1" := by decide
    rw [Namespace.uniqueName, Namespace.declaredNames, hdeclared, firstFree_of_not_mem, hcandidate]
    rwa [hcandidate]
  constructor
  · refine ⟨_, .shape, by rw [Shape.field?, hfields]; rfl, ?_⟩
    rw [← hunique]
    exact .fresh
  · refine ⟨_, .shape, by rw [Shape.field?, hfields]; rfl, .fixed ?_⟩
    rwa [hdeclared]

/-- If there is a shape, then only the first field creates a variable. -/
theorem eq_of_creates (hsome : ∃ v ∈ declared, v.tag = .shape) {field name : String}
    (h : shape.Creates declared field name) : field = "VAR" := by
  have hdeclared := Namespace.declared_ofVariables declared ""
  obtain ⟨kind, tag, hfield, hcreates⟩ := h
  have hmem := Dict.mem_of_lookup hfield
  rw [hfields, List.mem_cons, List.mem_singleton] at hmem
  rcases hmem with hvar | hparent
  · exact (Prod.mk.inj hvar).1
  · obtain ⟨-, rfl⟩ := Prod.mk.inj hparent
    cases hcreates with
    | fixed hnone =>
      rw [hdeclared] at hnone
      obtain ⟨v, hv, htag⟩ := hsome
      exact absurd htag (hnone v hv)

end TwoFields

/-- **When the names that are created are new**, for a standard kind. -/
theorem newNames_created_iff_of_mem_standard {declared : List Variable} {d : Definition}
    (hd : d ∈ Registry.standard.definitions) {proposals : Dict Proposal}
    (hget : ∀ field, proposals.get? field =
      (d.shape.field? field).bind (FieldKind.proposal? (.ofVariables declared ""))) :
    NewNames declared ((created proposals).map Prod.fst) ↔
      d.shape.FixedNamesFree declared ∧
        (d.shape.kind = "create_shape_and_add_to" → ∃ v ∈ declared, v.tag = .shape) := by
  rw [newNames_created_iff hget, creates_not_mem_iff]
  refine and_congr_right fun hfree => ?_
  by_cases hkind : d.shape.kind = "create_shape_and_add_to"
  · have hfields := fields_of_mem_standard d hd hkind
    constructor
    · intro hdistinct _
      by_contra hnone
      push Not at hnone
      have hparent : d.shape.field? "PARENT" = some (.reference .shape (.first "shape_1")) := by
        rw [Shape.field?, hfields]
        rfl
      obtain ⟨hvar, hparent⟩ := creates_twice hfields hnone (hfree _ _ _ hparent hnone)
      exact absurd (hdistinct _ _ _ hvar hparent) (by decide)
    · intro hsome field field' name h h'
      rw [eq_of_creates hfields (hsome hkind) h, eq_of_creates hfields (hsome hkind) h']
  · refine iff_of_true ?_ fun h => absurd h hkind
    rintro field field' name ⟨kind, tag, hfield, hcreates⟩ ⟨kind', tag', hfield', hcreates'⟩
    exact eq_of_meets_of_mem_standard d hd hkind _ (Dict.mem_of_lookup hfield) _
      (Dict.mem_of_lookup hfield') (hcreates.meets hcreates')

/-! ## Declaring what is created -/

/-- **When all that is proposed can be created.** A document is accepted, and for a new block of a
standard kind all variables are declared that have to be created, each with a new id. The document
is still accepted exactly if their names are different and none of them is the name of a variable.
That is so unless a field has no variable to pick and its fixed name is the name of a variable of
another tag, or a shape is to be created and added to another one and there is no shape yet. -/
theorem isSome_link_created_iff (registry : Registry) (document : Document) (w : Workspace)
    (h : (link registry.shape? document).workspace = some w) (kind : String) (d : Definition)
    (hd : d ∈ Registry.standard.definitions) (hkind : registry.get? kind = some d) :
    ∃ proposals, proposals? registry w kind = some proposals ∧
      (NewNames w.declared ((created proposals).map Prod.fst) ↔
        d.shape.FixedNamesFree w.declared ∧
          (kind = "create_shape_and_add_to" → ∃ v ∈ w.declared, v.tag = .shape)) ∧
      ∀ declarations, Declares declarations (created proposals) →
        (w.declared.map Variable.id ++ declarations.map Declaration.id).Nodup →
        ((link registry.shape? (document.declaring declarations)).workspace.isSome ↔
          NewNames w.declared ((created proposals).map Prod.fst)) := by
  have hshape := Registry.shape?_of_get? hkind
  obtain ⟨proposals, hproposals, hget⟩ := exists_proposals hd hshape w
  refine ⟨proposals, hproposals, ?_, ?_⟩
  · rw [← Registry.kind_of_shape? hshape]
    exact newNames_created_iff_of_mem_standard hd hget
  · intro declarations hdeclares hids
    exact Document.isSome_link_declaring_iff h hdeclares hids

/-- A document with two variables: a light that has the first name for shapes, and a shape. -/
def lampDocument : Document where
  declarations := [⟨"l", "shape_1", "LIGHT"⟩, ⟨"s", "ball", "SHAPE"⟩]

theorem isSome_link_created_iff_lampDocument :
    ∃ w, (link Registry.standard.shape? lampDocument).workspace = some w ∧
      (proposals? .standard w "create_shape_and_add_to").map created =
        some [("shape_2", .shape)] ∧
      (link Registry.standard.shape?
        (lampDocument.declaring [⟨"x", "shape_2", "SHAPE"⟩])).workspace.isSome = true := by
  have hlink : (link Registry.standard.shape? lampDocument).workspace =
      some { declared := [⟨"l", "shape_1", .light⟩, ⟨"s", "ball", .shape⟩] } := by
    decide +kernel
  obtain ⟨proposals, hproposals, hnew, haccepted⟩ :=
    isSome_link_created_iff .standard lampDocument _ hlink "create_shape_and_add_to"
      Kinds.createShapeAndAddTo (by simp [Registry.definitions_standard, Kinds.standard]) rfl
  have hcreated : (proposals? .standard
      { declared := [⟨"l", "shape_1", .light⟩, ⟨"s", "ball", .shape⟩] }
      "create_shape_and_add_to").map created = some [("shape_2", .shape)] := by
    decide +kernel
  refine ⟨_, hlink, hcreated, ?_⟩
  rw [hproposals, Option.map_some, Option.some.injEq] at hcreated
  refine (haccepted [⟨"x", "shape_2", "SHAPE"⟩] ?_ (by decide)).2 (hnew.2 ⟨?_, fun _ => ?_⟩)
  · rw [hcreated]
    exact List.Perm.refl _
  · intro field tag fallback hfield hnone
    have hmem := Dict.mem_of_lookup hfield
    obtain ⟨-, htag, -⟩ : field = "PARENT" ∧ tag = .shape ∧ fallback = "shape_1" := by
      simpa [Kinds.createShapeAndAddTo, Shape.fields] using hmem
    exact absurd htag.symm (hnone ⟨"s", "ball", .shape⟩ (by decide))
  · exact ⟨⟨"s", "ball", .shape⟩, by decide, rfl⟩

/-- The document of a text is accepted, but no more with these declarations of all variables that
have to be created for a new block of a kind. -/
def Spoils (text kind : String) (declarations : List Declaration) : Prop :=
  ∃ document w proposals, Document.ofText text = .ok document ∧
    (link Registry.standard.shape? document).workspace = some w ∧
    proposals? .standard w kind = some proposals ∧
    Declares declarations (created proposals) ∧
    (w.declared.map Variable.id ++ declarations.map Declaration.id).Nodup ∧
    (link Registry.standard.shape? (document.declaring declarations)).workspace = none

theorem spoils_of_eq {text kind : String} {declarations : List Declaration}
    (h : ((Document.ofText text).toOption.bind fun document =>
      (link Registry.standard.shape? document).workspace.bind fun w =>
      (proposals? .standard w kind).map fun proposals => decide
        ((declarations.map fun v => (v.name, SocketTag.ofName? v.type)) =
            (created proposals).map (fun v => (v.1, some v.2)) ∧
          (w.declared.map Variable.id ++ declarations.map Declaration.id).Nodup ∧
          (link Registry.standard.shape? (document.declaring declarations)).workspace.isNone)) =
      some true) : Spoils text kind declarations := by
  obtain ⟨document, hdocument, h⟩ := Option.bind_eq_some_iff.1 h
  obtain ⟨w, hw, h⟩ := Option.bind_eq_some_iff.1 h
  obtain ⟨proposals, hproposals, h⟩ := Option.map_eq_some_iff.1 h
  obtain ⟨hcreated, hids, hnone⟩ := of_decide_eq_true h
  refine ⟨document, w, proposals, ?_, hw, hproposals, ?_, hids, Option.isNone_iff_eq_none.1 hnone⟩
  · cases htext : Document.ofText text with
    | ok found =>
      rw [htext] at hdocument
      cases hdocument
      rfl
    | error cause =>
      rw [htext] at hdocument
      cases hdocument
  · rw [Declares, hcreated]

/-- **Not all that is proposed can be created.** Without variables, both fields of a block get the
same name, and with a light of the fixed name, the name is not free. -/
theorem spoils_fixedName :
    Spoils "[[0, []]]" "create_shape_and_add_to"
      [⟨"x", "shape_1", "SHAPE"⟩, ⟨"y", "shape_1", "SHAPE"⟩] ∧
    Spoils "[[0, []], [[\"l\", \"shape_1\", \"LIGHT\"]]]" "set_mass"
      [⟨"x", "shape_1", "SHAPE"⟩] := by
  constructor
  · apply spoils_of_eq
    decide +kernel
  · apply spoils_of_eq
    decide +kernel

end SceneScript
