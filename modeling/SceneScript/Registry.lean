import SceneScript.Operation
import SceneScript.Plan
import SceneScript.Shape

/-!
# Registries

A registry lists the known kinds of blocks, each with its shape, its rule and the operation that it
calls, in the order of their first registration. An index leads from a kind to its place in the
list, so that a kind is looked up without a search. The list and the index are always in step.

* `Rule`, `Definition`: the rule of a kind, and all that is known about it.
* `Registry.InStep`: an index leads to the places of a list of definitions.
* `Registry.register`, `Registry.get?`: adding a kind, and looking one up.
* `Registry.get?_eq_find?`: looking a kind up finds what a search through the list would find.
-/

namespace SceneScript

/-- How the code of a block is put together. -/
inductive Rule where
  | statement (plan : Plan String)
  | value (plan : Plan (String × Precedence))

/-- All that is known about a kind of block. -/
structure Definition where
  shape : Shape
  rule : Rule
  /-- The operation that the block calls. -/
  operation : Option Operation := none

/-- The kind that is defined. -/
def Definition.kind (d : Definition) : String := d.shape.kind

/-- An index is in step with a list of definitions: it leads from each kind to the place of its
definition, and from all other kinds nowhere. -/
def Registry.InStep (definitions : List Definition) (index : List (String × Nat)) : Prop :=
  ∀ kind place, index.lookup kind = some place ↔
    definitions[place]?.map Definition.kind = some kind

/-- The known kinds of blocks. -/
structure Registry where
  /-- The definitions in the order of the first registrations of their kinds. -/
  definitions : List Definition
  /-- The places of the kinds in that list. -/
  index : List (String × Nat)
  inStep : Registry.InStep definitions index

namespace Registry

/-! ## Places -/

section InStep

variable {definitions : List Definition} {index : List (String × Nat)} {d : Definition}

theorem InStep.nil : InStep [] [] := by simp [InStep]

/-- Where a kind has a place, its definition can be replaced there. -/
theorem InStep.set (h : InStep definitions index) {place : Nat}
    (hplace : index.lookup d.kind = some place) : InStep (definitions.set place d) index := by
  intro kind other
  rw [h kind other]
  have hkind := (h d.kind place).1 hplace
  by_cases hother : place = other
  · subst hother
    obtain ⟨old, hold, -⟩ := Option.map_eq_some_iff.1 hkind
    have hlt : place < definitions.length := (List.getElem?_eq_some_iff.1 hold).1
    rw [hkind, List.getElem?_set_self hlt, Option.map_some]
  · rw [List.getElem?_set_ne hother]

/-- A kind without a place gets the one behind all others. -/
theorem InStep.concat (h : InStep definitions index) (hnew : index.lookup d.kind = none) :
    InStep (definitions ++ [d]) ((d.kind, definitions.length) :: index) := by
  intro kind place
  have hold : definitions[place]?.map Definition.kind ≠ some d.kind := by
    rw [Ne, ← h, hnew]
    simp
  rw [List.lookup_cons]
  by_cases hkind : kind = d.kind
  · subst hkind
    by_cases hlt : place < definitions.length
    · rw [List.getElem?_append_left hlt]
      simp [hold, Nat.ne_of_gt hlt]
    · rw [List.getElem?_append_right (Nat.le_of_not_lt hlt), List.getElem?_singleton]
      by_cases hplace : definitions.length = place
      · simp [hplace]
      · have hne : place - definitions.length ≠ 0 := by omega
        simp [hplace, hne]
  · have hbeq : (kind == d.kind) = false := by simp [hkind]
    simp only [hbeq]
    rw [h kind place]
    by_cases hlt : place < definitions.length
    · rw [List.getElem?_append_left hlt]
    · rw [List.getElem?_append_right (Nat.le_of_not_lt hlt), List.getElem?_singleton,
        List.getElem?_eq_none (Nat.le_of_not_lt hlt)]
      split <;> simp [Ne.symm hkind]

end InStep

/-! ## Kinds -/

/-- The registry without kinds. -/
def empty : Registry := ⟨[], [], .nil⟩

/-- The definition of a kind. -/
def get? (r : Registry) (kind : String) : Option Definition :=
  (r.index.lookup kind).bind fun place => r.definitions[place]?

/-- A kind is known. -/
def contains (r : Registry) (kind : String) : Bool := (r.index.lookup kind).isSome

/-- The shape of a kind. -/
def shape? (r : Registry) (kind : String) : Option Shape := (r.get? kind).map Definition.shape

/-- Adds a definition. One of the same kind is replaced where it stands. -/
def register (r : Registry) (d : Definition) : Registry :=
  match hplace : r.index.lookup d.kind with
  | some place => ⟨r.definitions.set place d, r.index, r.inStep.set hplace⟩
  | none =>
    ⟨r.definitions ++ [d], (d.kind, r.definitions.length) :: r.index, r.inStep.concat hplace⟩

/-- Adds definitions one after another. -/
def registerAll (r : Registry) (ds : List Definition) : Registry := ds.foldl register r

/-- The kinds in the order of their registration. -/
def kinds (r : Registry) : List String := r.definitions.map Definition.kind

/-! ## The list and the index -/

section Views

variable {r : Registry} {kind : String} {d : Definition}

/-- A definition has the place that the index says. -/
theorem lookup_kind {place : Nat} (h : r.definitions[place]? = some d) :
    r.index.lookup d.kind = some place := (r.inStep d.kind place).2 (by rw [h]; rfl)

theorem kind_of_get? (h : r.get? kind = some d) : d.kind = kind := by
  obtain ⟨place, hplace, hd⟩ := Option.bind_eq_some_iff.1 h
  have hkind := (r.inStep kind place).1 hplace
  rw [hd] at hkind
  exact Option.some.inj hkind

theorem mem_of_get? (h : r.get? kind = some d) : d ∈ r.definitions := by
  obtain ⟨place, -, hd⟩ := Option.bind_eq_some_iff.1 h
  exact List.mem_of_getElem? hd

/-- What is listed is found. -/
theorem get?_kind_of_mem (h : d ∈ r.definitions) : r.get? d.kind = some d := by
  obtain ⟨place, hplace⟩ := List.mem_iff_getElem?.1 h
  rw [get?, lookup_kind hplace, Option.bind_some, hplace]

/-- **Looking a kind up finds what a search through the list finds.** -/
theorem get?_eq_find? (r : Registry) (kind : String) :
    r.get? kind = r.definitions.find? (·.kind == kind) := by
  cases hfind : r.definitions.find? (·.kind == kind) with
  | some d =>
    have hkind : d.kind = kind := by simpa using List.find?_some hfind
    rw [← hkind]
    exact get?_kind_of_mem (List.mem_of_find?_eq_some hfind)
  | none =>
    cases hget : r.get? kind with
    | none => rfl
    | some d =>
      have hne := List.find?_eq_none.1 hfind d (mem_of_get? hget)
      simp [kind_of_get? hget] at hne

/-- A kind is known if it has a definition. -/
theorem contains_eq_isSome (r : Registry) (kind : String) :
    r.contains kind = (r.get? kind).isSome := by
  rw [contains, get?]
  cases hplace : r.index.lookup kind with
  | none => rfl
  | some place =>
    obtain ⟨d, hd, -⟩ := Option.map_eq_some_iff.1 ((r.inStep kind place).1 hplace)
    simp [hd]

/-- A kind without a definition is added behind all others. -/
theorem definitions_register_of_new (h : d.kind ∉ r.kinds) :
    (r.register d).definitions = r.definitions ++ [d] := by
  unfold register
  split
  · next place hplace =>
    obtain ⟨old, hold, hkind⟩ := Option.map_eq_some_iff.1 ((r.inStep _ _).1 hplace)
    exact absurd (List.mem_map.2 ⟨old, List.mem_of_getElem? hold, hkind⟩) h
  · rfl

/-- Definitions of different kinds are listed as they come. -/
theorem definitions_registerAll : ∀ {ds : List Definition} {r : Registry},
    ((r.definitions ++ ds).map Definition.kind).Nodup →
      (r.registerAll ds).definitions = r.definitions ++ ds
  | [], r, _ => (List.append_nil _).symm
  | d :: ds, r, h => by
    have hnew : d.kind ∉ r.kinds := by
      rw [List.map_append, List.map_cons] at h
      exact fun hmem => (List.nodup_append.1 h).2.2 _ hmem _ List.mem_cons_self rfl
    have hdefinitions := definitions_register_of_new hnew
    have hnodup : (((r.register d).definitions ++ ds).map Definition.kind).Nodup := by
      rwa [hdefinitions, List.append_assoc]
    have hrest := definitions_registerAll hnodup
    rwa [hdefinitions, List.append_assoc] at hrest

end Views

end Registry

end SceneScript
