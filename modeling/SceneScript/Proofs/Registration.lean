import Mathlib.Data.List.Induction
import SceneScript.Proofs.Outline

/-!
# Registering kinds

A registration replaces the definition of its kind where it stands, or adds a kind at the end. So
after any registrations a registry answers with the last definition of each kind, and lists the
kinds in the order of their first registrations. The definitions for the editor follow that list,
and the toolbox deals it out to its drawers: no kind is lost, and none is offered twice, even if
a later definition has moved it to another category.

* `Registry.get?_registerAll`, `Registry.kinds_registerAll`: what they come to.
* `Toolbox.readDrawers?`: the drawers, read from the toolbox.
* **`listed_registerAll`**: the registry and the toolbox after any registrations.
-/

namespace SceneScript

namespace Registry

/-! ## One registration -/

section Register

variable {r : Registry}

theorem mem_kinds_iff_isSome {kind : String} : kind ∈ r.kinds ↔ (r.get? kind).isSome = true := by
  simp [get?_eq_find?, kinds]

/-- No kind is listed twice: the index has one place for it. -/
theorem nodup_kinds (r : Registry) : r.kinds.Nodup := by
  refine List.nodup_iff_getElem?_ne_getElem?.2 fun i j hij hj heq => ?_
  have hsome : r.kinds[j]? = some r.kinds[j] := List.getElem?_eq_getElem hj
  have hi := (r.inStep r.kinds[j] i).2 (by rw [← List.getElem?_map, ← kinds, heq, hsome])
  have hj := (r.inStep r.kinds[j] j).2 (by rw [← List.getElem?_map, ← kinds, hsome])
  rw [hi] at hj
  exact absurd (Option.some.inj hj) (Nat.ne_of_lt hij)

/-- What is registered stands in the list, wherever it was put. -/
theorem mem_definitions_register (d : Definition) : d ∈ (r.register d).definitions := by
  unfold register
  split
  · next place hplace =>
    obtain ⟨old, hold, -⟩ := Option.map_eq_some_iff.1 ((r.inStep _ _).1 hplace)
    exact List.mem_set (List.getElem?_eq_some_iff.1 hold).1 d
  · exact List.mem_append_right _ (List.mem_singleton_self d)

/-- A registration moves no other kind and leaves its definition as it is. -/
theorem get?_register_of_ne {d : Definition} {kind : String} (h : d.kind ≠ kind) :
    (r.register d).get? kind = r.get? kind := by
  unfold register
  split
  · next place hplace =>
    refine Option.bind_congr fun other hother => List.getElem?_set_ne fun heq => h ?_
    -- An index that led to one place from both kinds would have its list show both kinds there.
    have hkind := (r.inStep _ _).1 hplace
    rw [heq, (r.inStep _ _).1 hother] at hkind
    exact (Option.some.inj hkind).symm
  · have hlookup :
        ((d.kind, r.definitions.length) :: r.index).lookup kind = r.index.lookup kind := by
      have hne : (kind == d.kind) = false := by simpa using Ne.symm h
      simp only [List.lookup_cons, hne]
    rw [get?, hlookup]
    refine Option.bind_congr fun place hplace => List.getElem?_append_left ?_
    obtain ⟨old, hold, -⟩ := Option.map_eq_some_iff.1 ((r.inStep _ _).1 hplace)
    exact (List.getElem?_eq_some_iff.1 hold).1

/-- A registration changes what is known of its own kind and of no other. -/
@[simp] theorem get?_register (d : Definition) (kind : String) :
    (r.register d).get? kind = if d.kind = kind then some d else r.get? kind := by
  split_ifs with hkind
  · rw [← hkind]
    exact get?_kind_of_mem (mem_definitions_register d)
  · exact get?_register_of_ne hkind

/-- A kind that is new comes last; any other keeps its place. -/
theorem kinds_register (d : Definition) :
    (r.register d).kinds = if d.kind ∈ r.kinds then r.kinds else r.kinds ++ [d.kind] := by
  split_ifs with hmem
  · unfold register
    split
    · next place hplace =>
      have hkind := (r.inStep _ _).1 hplace
      rw [← List.getElem?_map, ← kinds] at hkind
      obtain ⟨hlt, hkind⟩ := List.getElem?_eq_some_iff.1 hkind
      rw [kinds, List.map_set, ← kinds, ← hkind, List.set_getElem_self]
    · next hplace =>
      rw [mem_kinds_iff_isSome, ← contains_eq_isSome, contains, hplace] at hmem
      cases hmem
  · rw [kinds, definitions_register_of_new hmem, List.map_append, kinds, List.map_singleton]

theorem map_get?_kinds (r : Registry) : r.kinds.map r.get? = r.definitions.map some := by
  rw [kinds, List.map_map]
  exact List.map_congr_left fun d hd => get?_kind_of_mem hd

end Register

/-! ## Many registrations -/

theorem registerAll_append (r : Registry) (ds es : List Definition) :
    r.registerAll (ds ++ es) = (r.registerAll ds).registerAll es := List.foldl_append

theorem registerAll_concat (r : Registry) (ds : List Definition) (d : Definition) :
    r.registerAll (ds ++ [d]) = (r.registerAll ds).register d := registerAll_append r ds [d]

/-- The last definition of a kind counts. -/
theorem get?_registerAll (ds : List Definition) (kind : String) :
    (empty.registerAll ds).get? kind = ds.reverse.find? (·.kind == kind) := by
  induction ds using List.reverseRecOn with
  | nil => rfl
  | append_singleton ds d ih =>
    rw [registerAll_concat, get?_register, ih, List.reverse_concat]
    by_cases hkind : d.kind = kind
    · simp [hkind]
    · rw [if_neg hkind, List.find?_cons_of_neg (by simpa using hkind)]

/-- The kinds stand in the order of their first registrations. -/
theorem kinds_registerAll (ds : List Definition) :
    (empty.registerAll ds).kinds = (ds.map Definition.kind).eraseDups := by
  induction ds using List.reverseRecOn with
  | nil => rfl
  | append_singleton ds d ih =>
    have hmem : d.kind ∈ (ds.map Definition.kind).eraseDups ↔ d.kind ∈ ds.map Definition.kind :=
      List.mem_eraseDups
    rw [registerAll_concat, kinds_register, ih, List.map_append, List.eraseDups_append]
    by_cases hold : d.kind ∈ ds.map Definition.kind
    · rw [if_pos (hmem.2 hold), List.map_singleton, List.removeAll,
        List.filter_cons_of_neg (by simpa using hold), List.filter_nil, List.eraseDups_nil,
        List.append_nil]
    · rw [if_neg (mt hmem.1 hold), List.map_singleton, List.removeAll,
        List.filter_cons_of_pos (by simpa using hold), List.filter_nil]
      rfl

end Registry

/-! ## Definitions and drawers -/

namespace Toolbox

/-- The kind that a definition for the editor, or an entry of a drawer, is about. -/
def readType? (json : Json) : Option String := (json.member? "type").bind Json.string?

/-- The name and the kinds of a drawer. -/
def readDrawer? (json : Json) : Option (String × List String) := do
  let name ← (json.member? "name").bind Json.string?
  let kinds ← (json.member? "contents").bind (Json.readList? readType?)
  return (name, kinds)

/-- The drawers of a toolbox, each with its name and its kinds. -/
def readDrawers? (json : Json) : Option (List (String × List String)) :=
  (json.member? "contents").bind (Json.readList? readDrawer?)

variable (r : Registry)

/-- The categories that have kinds, with their kinds. -/
def drawers : List (Category × List String) :=
  (Category.all.map fun category => (category, kindsOf r category)).filter (!·.2.isEmpty)

theorem flatMap_snd_drawers : (drawers r).flatMap Prod.snd = Category.all.flatMap (kindsOf r) := by
  unfold drawers
  induction Category.all with
  | nil => rfl
  | cons category categories ih =>
    by_cases hempty : kindsOf r category = []
    · simp [hempty, ih]
    · simp [hempty, ih]

theorem readType?_definitions : Json.readList? readType? (definitions r) = some r.kinds := by
  refine Json.readList?_list_map (fun d => ?_) r.definitions
  rw [readType?, member?_definition_type]
  rfl

/-- The definitions are those of what look-up finds for the kinds. -/
theorem definitions_eq_filterMap : definitions r =
    .list (r.kinds.filterMap fun kind => (r.get? kind).map fun d => definition d.shape) := by
  rw [definitions, Registry.kinds, List.filterMap_map, ← List.filterMap_eq_map]
  refine congrArg Json.list (List.filterMap_congr fun d hd => ?_)
  simp [Registry.get?_kind_of_mem hd]

theorem readType?_entry (kind : String) :
    readType? (.sortedObject [("kind", .string "block"), ("type", .string kind)]) = some kind := by
  simp [readType?, Json.member?_sortedObject, Json.string?]

theorem drawer?_eq_none_iff {r : Registry} {category : Category} :
    drawer? r category = none ↔ kindsOf r category = [] := by
  rw [drawer?]
  split <;> simp_all

theorem readDrawer?_of_drawer?_eq_some {r : Registry} {category : Category} {json : Json}
    (h : drawer? r category = some json) :
    readDrawer? json = some (category.name, kindsOf r category) := by
  rw [drawer?] at h
  split at h
  · cases h
  · cases h
    have hkinds := Json.readList?_list_map readType?_entry (kindsOf r category)
    rw [List.map_id'] at hkinds
    simp [readDrawer?, Json.member?_sortedObject, List.lookup_cons, Json.string?, hkinds]

/-- The drawers are read back from the toolbox. -/
theorem readDrawers?_contents : readDrawers? (contents r) =
    some ((drawers r).map fun drawer => (drawer.1.name, drawer.2)) := by
  have hread : ∀ categories : List Category, (categories.filterMap (drawer? r)).mapM readDrawer? =
      some (((categories.map fun category => (category, kindsOf r category)).filter
        (!·.2.isEmpty)).map fun drawer => (drawer.1.name, drawer.2)) := by
    intro categories
    induction categories with
    | nil => rfl
    | cons category categories ih =>
      cases hdrawer : drawer? r category with
      | none =>
        have hempty := drawer?_eq_none_iff.1 hdrawer
        rw [List.filterMap_cons_none hdrawer, ih]
        simp [hempty]
      | some json =>
        have hne : kindsOf r category ≠ [] := fun h => by
          rw [drawer?_eq_none_iff.2 h] at hdrawer
          cases hdrawer
        rw [List.filterMap_cons_some hdrawer, List.mapM_cons,
          readDrawer?_of_drawer?_eq_some hdrawer, ih]
        simp [hne]
  have hcontents : (contents r).member? "contents" =
      some (.list (Category.all.filterMap (drawer? r))) := by
    rw [contents, Json.member?_sortedObject]
    simp
  rw [readDrawers?, hcontents]
  exact hread Category.all

/-- The kinds of the registry are dealt out to drawers in the order of the categories: each drawer
has kinds, and those in the order of the registry that are in its category now. -/
structure Sorted (drawers : List (Category × List String)) : Prop where
  canonical : (drawers.map Prod.fst).Sublist Category.all
  filled : ∀ drawer ∈ drawers, drawer.2 ≠ []
  ordered : ∀ drawer ∈ drawers, drawer.2.Sublist r.kinds
  current : ∀ drawer ∈ drawers, ∀ kind ∈ drawer.2,
    (r.get? kind).map (·.shape.category) = some drawer.1
  complete : (drawers.flatMap Prod.snd).Perm r.kinds

theorem mem_kindsOf_iff {r : Registry} {category : Category} {kind : String} :
    kind ∈ kindsOf r category ↔ (r.get? kind).map (·.shape.category) = some category := by
  constructor
  · intro hkind
    obtain ⟨d, hd, rfl⟩ := List.mem_map.1 hkind
    obtain ⟨hmem, hcategory⟩ := List.mem_filter.1 hd
    rw [Registry.get?_kind_of_mem hmem, Option.map_some, beq_iff_eq.1 hcategory]
  · intro hget
    obtain ⟨d, hd, hcategory⟩ := Option.map_eq_some_iff.1 hget
    exact List.mem_map.2 ⟨d, List.mem_filter.2 ⟨Registry.mem_of_get? hd, beq_iff_eq.2 hcategory⟩,
      Registry.kind_of_get? hd⟩

theorem mem_flatMap_kindsOf_iff {r : Registry} {kind : String} :
    kind ∈ Category.all.flatMap (kindsOf r) ↔ kind ∈ r.kinds := by
  have hall : ∀ category : Category, category ∈ Category.all := by
    intro category
    cases category <;> decide
  simp only [List.mem_flatMap, mem_kindsOf_iff, Registry.mem_kinds_iff_isSome, hall, true_and]
  rw [← Option.isSome_map, Option.isSome_iff_exists]

theorem nodup_flatMap_kindsOf : (Category.all.flatMap (kindsOf r)).Nodup := by
  refine List.nodup_flatMap.2
    ⟨fun category _ => r.nodup_kinds.sublist (List.filter_sublist.map _), ?_⟩
  have hdistinct : Category.all.Nodup := by decide
  refine hdistinct.imp fun {a b} hne => ?_
  -- A kind in two drawers would have two categories.
  intro kind hkind hkind'
  rw [mem_kindsOf_iff] at hkind hkind'
  rw [hkind] at hkind'
  exact hne (Option.some.inj hkind')

theorem sorted_drawers : Sorted r (drawers r) where
  canonical := by
    have hfirst : (Category.all.map fun category => (category, kindsOf r category)).map Prod.fst =
        Category.all := by
      simp [Function.comp_def]
    conv_rhs => rw [← hfirst]
    exact List.filter_sublist.map _
  filled := by
    intro drawer hdrawer
    simpa using (List.mem_filter.1 hdrawer).2
  ordered := by
    intro drawer hdrawer
    obtain ⟨category, -, rfl⟩ := List.mem_map.1 (List.mem_filter.1 hdrawer).1
    exact List.filter_sublist.map _
  current := by
    intro drawer hdrawer kind hkind
    obtain ⟨category, -, rfl⟩ := List.mem_map.1 (List.mem_filter.1 hdrawer).1
    exact mem_kindsOf_iff.1 hkind
  complete := by
    rw [flatMap_snd_drawers, List.perm_ext_iff_of_nodup (nodup_flatMap_kindsOf r) r.nodup_kinds]
    exact fun kind => mem_flatMap_kindsOf_iff

end Toolbox

/-! ## The registry and what the editor is told -/

/-- A registry in which a history of registrations has ended. -/
structure Registry.Listed (r : Registry) (history : List Definition) : Prop where
  /-- The index leads to the place of each kind in the list, and nowhere from other kinds. -/
  places : ∀ kind place, r.index.lookup kind = some place ↔ r.kinds[place]? = some kind
  /-- The last definition of a kind is the one that is found. -/
  last : ∀ kind, r.get? kind = history.reverse.find? (·.kind == kind)
  known : ∀ kind, r.contains kind = (r.get? kind).isSome
  /-- Each kind is listed once, in the order of the first registrations. -/
  kinds_eq : r.kinds = (history.map Definition.kind).eraseDups
  nodup : r.kinds.Nodup
  /-- What is listed for a kind is what is found for it. -/
  listed : r.definitions.map some = r.kinds.map r.get?
  /-- The editor gets one definition for each kind. -/
  defined : Json.readList? Toolbox.readType? (Toolbox.definitions r) = some r.kinds
  defined_eq : Toolbox.definitions r =
    .list (r.kinds.filterMap fun kind => (r.get? kind).map fun d => Toolbox.definition d.shape)
  /-- The toolbox offers each kind in one drawer, that of its category. -/
  offered : ∃ drawers, Toolbox.Sorted r drawers ∧
    Toolbox.readDrawers? (Toolbox.contents r) =
      some (drawers.map fun drawer => (drawer.1.name, drawer.2))

theorem Registry.listed_registerAll_empty (ds : List Definition) :
    (empty.registerAll ds).Listed ds where
  places := by
    intro kind place
    rw [kinds, List.getElem?_map]
    exact (empty.registerAll ds).inStep kind place
  last := get?_registerAll ds
  known := contains_eq_isSome _
  kinds_eq := kinds_registerAll ds
  nodup := nodup_kinds _
  listed := (map_get?_kinds _).symm
  defined := Toolbox.readType?_definitions _
  defined_eq := Toolbox.definitions_eq_filterMap _
  offered := ⟨_, Toolbox.sorted_drawers _, Toolbox.readDrawers?_contents _⟩

/-- **Registries list every kind once, and so do their toolboxes**, whatever has been registered, on
top of nothing or of the standard kinds. -/
theorem listed_registerAll (ds : List Definition) :
    (Registry.empty.registerAll ds).Listed ds ∧
      (Registry.standard.registerAll ds).Listed (Registry.standard.definitions ++ ds) := by
  refine ⟨Registry.listed_registerAll_empty ds, ?_⟩
  rw [Registry.definitions_standard, Registry.standard, ← Registry.registerAll_append]
  exact Registry.listed_registerAll_empty (Kinds.standard ++ ds)

end SceneScript
