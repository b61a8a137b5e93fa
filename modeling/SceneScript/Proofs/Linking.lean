import Mathlib.Data.List.Basic
import Mathlib.Data.List.Nodup
import Mathlib.Tactic.Tauto
import SceneScript.Proofs.Diagnostics
import SceneScript.Proofs.Layout

/-!
# Clean runs of linking

A run of linking is clean if it reports no error. Errors are never taken back, so a run of two
steps is clean exactly if both are (`Linking.clean_bind_iff`). From this, one equivalence for each
step says when it is clean and what it does then, up to a whole chain: linking a chain is clean
exactly if every block of it fits its place and every id is new, and then the workspace grows by
the layout of the chain (`Linking.clean_linkChain_iff`, `Linking.clean_linkValue_iff`).

* `Site.Fits`: a block that can stand where it does.
* `Linking.Clean`: a step without errors.
* `Linking.Fresh`: ids that are new and differ from each other.
-/

namespace SceneScript

/-! ## Blocks that fit their places -/

/-- A block can stand where it does: its kind is known, it stands in few enough inputs, it is a
statement or an expression as its place asks for, nothing is below it if it is an expression, and
its inputs are those of its shape. -/
def Site.Fits (catalog : Catalog) (site : Site) : Prop :=
  ∃ header inputs next shape, site.found = .block header inputs next ∧
    catalog header.kind = some shape ∧ site.nesting ≤ Linking.maxNesting ∧
    (site.position = .statements → shape.isStatement = true) ∧
    (site.position = .value → shape.isStatement = false) ∧
    (shape.isStatement = false → next = .none) ∧
    ∀ input ∈ inputs, (shape.input? input.1).isSome

theorem Shape.positionIn_of_value {shape : Shape} {name : String} {accepts : TagSet}
    (h : shape.input? name = some (.value accepts)) : positionIn (some shape) name = .value := by
  simp [positionIn, takesStatements, h]

theorem Shape.positionIn_of_statements {shape : Shape} {name : String}
    (h : shape.input? name = some .statements) : positionIn (some shape) name = .statements := by
  simp [positionIn, takesStatements, h]

namespace Chain

/-- Every block of a chain fits its place. -/
def Fits (catalog : Catalog) (position : Position) (nesting : Nat) (chain : Chain) : Prop :=
  ∀ site ∈ chain.sites catalog position nesting, site.Fits catalog

/-- Every block in the inputs of a block of some shape fits its place. -/
def InputsFit (catalog : Catalog) (shape : Shape) (nesting : Nat) (inputs : List (String × Chain)) :
    Prop :=
  ∀ site ∈ sitesOfInputs catalog (some shape) nesting inputs, site.Fits catalog

variable {catalog : Catalog} {position : Position} {nesting : Nat}

theorem fits_none : (none : Chain).Fits catalog position nesting := by
  simp [Fits, sites]

theorem not_fits_unreadable (cause : Json.Cause) :
    ¬ (unreadable cause).Fits catalog position nesting := by
  simp [Fits, sites, Site.Fits]

theorem not_fits_of_unknown {header : Header} {inputs : List (String × Chain)} {next : Chain}
    (hkind : catalog header.kind = .none) :
    ¬ (block header inputs next).Fits catalog position nesting := by
  intro h
  obtain ⟨_, _, _, shape, hfound, hshape, _⟩ := h _ List.mem_cons_self
  cases hfound
  rw [hkind] at hshape
  cases hshape

theorem fits_block_iff {header : Header} {inputs : List (String × Chain)} {next : Chain}
    {shape : Shape} (hkind : catalog header.kind = some shape) :
    (block header inputs next).Fits catalog position nesting ↔
      nesting ≤ Linking.maxNesting ∧ (position = .statements → shape.isStatement = true) ∧
      (position = .value → shape.isStatement = false) ∧ (shape.isStatement = false → next = none) ∧
      (∀ input ∈ inputs, (shape.input? input.1).isSome) ∧
      InputsFit catalog shape (nesting + 1) inputs ∧ next.Fits catalog .statements nesting := by
  have hsite : Site.Fits catalog ⟨position, nesting, block header inputs next⟩ ↔
      nesting ≤ Linking.maxNesting ∧ (position = .statements → shape.isStatement = true) ∧
      (position = .value → shape.isStatement = false) ∧ (shape.isStatement = false → next = none) ∧
      ∀ input ∈ inputs, (shape.input? input.1).isSome := by
    constructor
    · rintro ⟨_, _, _, _, hfound, hshape, h⟩
      cases hfound
      rw [hkind] at hshape
      cases hshape
      exact h
    · intro h
      exact ⟨header, inputs, next, shape, rfl, hkind, h⟩
  simp only [Fits, InputsFit, sites, List.forall_mem_cons, List.forall_mem_append, hkind, hsite,
    and_assoc]

theorem fits_statement_iff {header : Header} {inputs : List (String × Chain)} {next : Chain}
    {shape : Shape} (hkind : catalog header.kind = some shape) :
    (block header inputs next).Fits catalog .statements nesting ↔
      nesting ≤ Linking.maxNesting ∧ shape.isStatement = true ∧
      (∀ input ∈ inputs, (shape.input? input.1).isSome) ∧
      InputsFit catalog shape (nesting + 1) inputs ∧ next.Fits catalog .statements nesting := by
  rw [fits_block_iff hkind]
  cases shape.isStatement <;> simp

theorem fits_value_iff {header : Header} {inputs : List (String × Chain)} {next : Chain}
    {shape : Shape} (hkind : catalog header.kind = some shape) :
    (block header inputs next).Fits catalog .value nesting ↔
      nesting ≤ Linking.maxNesting ∧ shape.isStatement = false ∧ next = none ∧
      (∀ input ∈ inputs, (shape.input? input.1).isSome) ∧
      InputsFit catalog shape (nesting + 1) inputs := by
  rw [fits_block_iff hkind]
  cases shape.isStatement
  · simp only [reduceCtorEq, false_imp_iff, true_and, imp_true_iff, true_imp_iff]
    refine and_congr_right fun _ => and_congr_right fun hnext => ?_
    simp [hnext, fits_none]
  · simp

theorem inputsFit_nil {shape : Shape} : InputsFit catalog shape nesting [] := by
  simp [InputsFit, sitesOfInputs]

theorem inputsFit_cons_iff {shape : Shape} {name : String} {chain : Chain}
    {rest : List (String × Chain)} :
    InputsFit catalog shape nesting ((name, chain) :: rest) ↔
      chain.Fits catalog (Shape.positionIn (some shape) name) nesting ∧
        InputsFit catalog shape nesting rest := by
  simp only [InputsFit, Fits, sitesOfInputs, List.forall_mem_append]

end Chain

namespace Linking

/-! ## Steps without errors -/

/-- How many errors have been reported. -/
def errors (s : Linking) : Nat := s.diagnostics.totalErrors

/-- A step that only adds findings, and never takes one back. -/
def Steady {α : Type} (m : Link α) : Prop :=
  ∀ s : Linking, ∃ ds, (m.run s).2.diagnostics = s.diagnostics.pushAll ds

/-- A step that leads to a state with an answer and reports no error. -/
def Clean {α : Type} (m : Link α) (s : Linking) (a : α) (s' : Linking) : Prop :=
  m.run s = (a, s') ∧ s'.errors = s.errors

section Steps

variable {α β : Type} {s s' : Linking}

theorem steady_pure (a : α) : Steady (pure a) := fun _ => ⟨[], rfl⟩

theorem steady_get : Steady (get : Link Linking) := fun _ => ⟨[], rfl⟩

theorem steady_bind {m : Link α} {f : α → Link β} (hm : Steady m) (hf : ∀ a, Steady (f a)) :
    Steady (m >>= f) := by
  intro s
  obtain ⟨ds, hds⟩ := hm s
  obtain ⟨ds', hds'⟩ := hf (m.run s).1 (m.run s).2
  refine ⟨ds ++ ds', ?_⟩
  rw [Diagnostics.pushAll_append, ← hds]
  exact hds'

theorem steady_modify {f : Linking → Linking} (hf : ∀ s, (f s).diagnostics = s.diagnostics) :
    Steady (modify f : Link PUnit) := fun s => ⟨[], hf s⟩

theorem steady_edit (f : Workspace → Workspace) : Steady (edit f) :=
  steady_modify fun _ => rfl

theorem steady_report (problem : Problem) : Steady (report problem) :=
  fun _ => ⟨[problem.diagnostic], rfl⟩

theorem Steady.errors_le {m : Link α} (h : Steady m) (s : Linking) :
    s.errors ≤ (m.run s).2.errors := by
  obtain ⟨ds, hds⟩ := h s
  rw [errors, errors, hds, Diagnostics.pushAll_eq]
  exact Nat.le_add_right _ _

theorem clean_pure_iff {a b : α} : Clean (pure a) s b s' ↔ b = a ∧ s' = s := by
  constructor
  · rintro ⟨h, -⟩
    cases h
    exact ⟨rfl, rfl⟩
  · rintro ⟨rfl, rfl⟩
    exact ⟨rfl, rfl⟩

theorem clean_get_bind_iff {f : Linking → Link β} {b : β} :
    Clean (get >>= f) s b s' ↔ Clean (f s) s b s' := Iff.rfl

theorem clean_modify_bind_iff {f : Linking → Linking} (hf : (f s).errors = s.errors)
    {g : PUnit → Link β} {b : β} :
    Clean (modify f >>= g) s b s' ↔ Clean (g ⟨⟩) (f s) b s' := by
  have hrun : (modify f >>= g).run s = (g ⟨⟩).run (f s) := rfl
  rw [Clean, Clean, hrun, hf]

theorem clean_edit_bind_iff {f : Workspace → Workspace} {g : Unit → Link β} {b : β} :
    Clean (edit f >>= g) s b s' ↔ Clean (g ()) { s with workspace := f s.workspace } b s' :=
  clean_modify_bind_iff rfl

theorem clean_edit_iff {f : Workspace → Workspace} {u : Unit} :
    Clean (edit f) s u s' ↔ s' = { s with workspace := f s.workspace } := by
  constructor
  · rintro ⟨h, -⟩
    exact (congrArg Prod.snd h).symm
  · rintro rfl
    exact ⟨rfl, rfl⟩

/-- A run of two steps is clean exactly if both of them are. -/
theorem clean_bind_iff {m : Link α} {f : α → Link β} (hm : Steady m) (hf : ∀ a, Steady (f a))
    {b : β} : Clean (m >>= f) s b s' ↔ ∃ a t, Clean m s a t ∧ Clean (f a) t b s' := by
  have hrun : (m >>= f).run s = (f (m.run s).1).run (m.run s).2 := rfl
  constructor
  · rintro ⟨h, herr⟩
    rw [hrun] at h
    have h₁ : s.errors ≤ (m.run s).2.errors := hm.errors_le s
    have h₂ : (m.run s).2.errors ≤ ((f (m.run s).1).run (m.run s).2).2.errors :=
      (hf _).errors_le _
    rw [h] at h₂
    dsimp only at h₂
    exact ⟨(m.run s).1, (m.run s).2, ⟨rfl, by omega⟩, ⟨h, by omega⟩⟩
  · rintro ⟨a, t, ⟨h₁, he₁⟩, ⟨h₂, he₂⟩⟩
    refine ⟨?_, he₂.trans he₁⟩
    rw [hrun, h₁]
    exact h₂

/-- A step that is clean under a condition, and then gives one answer and leads to one state. -/
theorem clean_bind_iff_of {m : Link α} {f : α → Link β} (hm : Steady m) (hf : ∀ a, Steady (f a))
    {c : Prop} {a₀ : α} {t₀ : Linking} (h : ∀ a t, Clean m s a t ↔ c ∧ a = a₀ ∧ t = t₀) {b : β} :
    Clean (m >>= f) s b s' ↔ c ∧ Clean (f a₀) t₀ b s' := by
  rw [clean_bind_iff hm hf]
  constructor
  · rintro ⟨a, t, hat, hb⟩
    obtain ⟨hc, rfl, rfl⟩ := (h a t).1 hat
    exact ⟨hc, hb⟩
  · rintro ⟨hc, hb⟩
    exact ⟨a₀, t₀, (h a₀ t₀).2 ⟨hc, rfl, rfl⟩, hb⟩

/-- Reporting an error is never clean. -/
theorem not_clean_report {problem : Problem} (h : problem.diagnostic.severity = .error) {u : Unit} :
    ¬ Clean (report problem) s u s' := by
  rintro ⟨hrun, herr⟩
  have hs : s' = { s with diagnostics := s.diagnostics.push problem.diagnostic } :=
    (congrArg Prod.snd hrun).symm
  rw [hs, errors, errors, Diagnostics.push, h] at herr
  simp at herr

/-- What follows a report of an error is not reached cleanly. -/
theorem clean_report_bind_iff {problem : Problem} (h : problem.diagnostic.severity = .error)
    {f : Unit → Link β} (hf : ∀ u, Steady (f u)) {b : β} :
    Clean (report problem >>= f) s b s' ↔ False := by
  rw [clean_bind_iff (steady_report problem) hf, iff_false]
  rintro ⟨u, t, hreport, -⟩
  exact not_clean_report h hreport

end Steps

/-! ## Ids -/

/-- Ids that are not in use and differ from each other. -/
def Fresh (used ids : List String) : Prop := ids.Nodup ∧ ∀ id ∈ ids, id ∉ used

theorem fresh_nil (used : List String) : Fresh used [] := by simp [Fresh]

theorem fresh_cons_iff {used ids : List String} {id : String} :
    Fresh used (id :: ids) ↔ id ∉ used ∧ Fresh (id :: used) ids := by
  rw [Fresh, Fresh, List.nodup_cons, List.forall_mem_cons]
  simp only [List.mem_cons, not_or]
  constructor
  · rintro ⟨⟨h₁, h₂⟩, h₃, h₄⟩
    exact ⟨h₃, h₂, fun x hx => ⟨fun h => h₁ (h ▸ hx), h₄ x hx⟩⟩
  · rintro ⟨h₁, h₂, h₃⟩
    exact ⟨⟨fun h => (h₃ id h).1 rfl, h₂⟩, h₁, fun x hx => (h₃ x hx).2⟩

theorem fresh_append_iff {used ids ids' : List String} :
    Fresh used (ids ++ ids') ↔ Fresh used ids ∧ Fresh (ids.reverse ++ used) ids' := by
  induction ids generalizing used with
  | nil => simp [fresh_nil]
  | cons id ids ih =>
    rw [List.cons_append, fresh_cons_iff, fresh_cons_iff, ih, and_assoc, List.reverse_cons,
      List.append_assoc, List.singleton_append]

section Blocks

variable {s s' : Linking}

theorem run_takeId (id : String) : (takeId id : Link (Option String)).run s =
    if id ∈ s.ids then (none, ((report (.duplicateBlock id) : Link Unit).run s).2)
    else (some id, { s with ids := id :: s.ids }) := by
  show ((if s.ids.contains id = true then _ else _ : Link (Option String)).run s) = _
  by_cases h : id ∈ s.ids
  · rw [if_pos h, if_pos (List.contains_iff_mem.2 h)]
    rfl
  · rw [if_neg h, if_neg (fun hc => h (List.contains_iff_mem.1 hc))]
    rfl

theorem steady_takeId (id : String) : Steady (takeId id) := by
  intro s
  rw [run_takeId]
  split_ifs
  · exact steady_report _ s
  · exact ⟨[], rfl⟩

theorem clean_takeId_iff {id : String} {a : Option String} :
    Clean (takeId id) s a s' ↔ id ∉ s.ids ∧ a = some id ∧ s' = { s with ids := id :: s.ids } := by
  constructor
  · rintro ⟨hrun, herr⟩
    rw [run_takeId] at hrun
    split_ifs at hrun with h
    · cases hrun
      have hreport : ∀ s', ¬ Clean (report (.duplicateBlock id)) s () s' :=
        fun _ => not_clean_report rfl
      exact absurd ⟨rfl, herr⟩ (hreport _)
    · cases hrun
      exact ⟨h, rfl, rfl⟩
  · rintro ⟨h, rfl, rfl⟩
    exact ⟨by rw [run_takeId, if_neg h], rfl⟩

theorem steady_claimId (id : Option String) : Steady (claimId id) := by
  cases id with
  | none =>
    exact steady_bind (steady_modify fun _ => rfl) fun _ => steady_bind steady_get fun _ =>
      steady_takeId _
  | some id => exact steady_takeId id

/-- The id that the next block gets if it has this header. -/
def nextId (s : Linking) (header : Header) : String :=
  header.id.getD ("__block" ++ toString (s.anonymous + 1))

theorem clean_claimId_iff {header : Header} {a : Option String} :
    Clean (claimId header.id) s a s' ↔ s.nextId header ∉ s.ids ∧ a = some (s.nextId header) ∧
      s' = { s with ids := s.nextId header :: s.ids
                    anonymous := s.anonymous + header.unnamed } := by
  obtain ⟨kind, id, enabled, fields⟩ := header
  cases id with
  | none =>
    rw [claimId, clean_modify_bind_iff rfl, clean_get_bind_iff, clean_takeId_iff]
    simp [nextId, Header.unnamed]
  | some id => simp [claimId, clean_takeId_iff, nextId, Header.unnamed]

theorem steady_report_bind (problem : Problem) (a : β) :
    Steady (do report problem; return a) :=
  steady_bind (steady_report problem) fun _ => steady_pure a

theorem steady_place (shape : Shape) (header : Header) (asStatement : Bool) (nesting : Nat) :
    Steady (place shape header asStatement nesting) := by
  refine steady_bind (steady_claimId _) fun id => ?_
  cases id with
  | none => exact steady_pure _
  | some id =>
    dsimp only
    split_ifs
    · exact steady_report_bind _ _
    · exact steady_report_bind _ _
    · refine steady_bind steady_get fun _ => ?_
      rw [note_bind]
      exact steady_bind (steady_edit _) fun _ => steady_pure _

theorem clean_place_iff {shape : Shape} {header : Header} {asStatement : Bool} {nesting : Nat}
    {a : Option (Ref × String)} :
    Clean (place shape header asStatement nesting) s a s' ↔
      (nesting ≤ maxNesting ∧ shape.isStatement = asStatement ∧ s.nextId header ∉ s.ids) ∧
        a = some (s.workspace.size, s.nextId header) ∧
        s' = { s with
          workspace := s.workspace.insert (newBlock shape (s.nextId header) header)
          ids := s.nextId header :: s.ids
          anonymous := s.anonymous + header.unnamed } := by
  rw [place, clean_bind_iff_of (steady_claimId _) _ fun _ _ => clean_claimId_iff]
  · dsimp only
    split_ifs with hdeep hplace
    · rw [clean_report_bind_iff rfl fun _ => steady_pure _]
      simp [Nat.not_le.2 hdeep]
    · rw [clean_report_bind_iff rfl fun _ => steady_pure _]
      have hne : shape.isStatement ≠ asStatement := by simpa using hplace
      simp [hne]
    · rw [clean_get_bind_iff, note_bind, clean_edit_bind_iff, clean_pure_iff]
      have heq : shape.isStatement = asStatement := by simpa using hplace
      simp only [Nat.not_lt.1 hdeep, heq, true_and]
      rfl
  · intro id
    cases id with
    | none => exact steady_pure _
    | some id =>
      dsimp only
      split_ifs
      · exact steady_report_bind _ _
      · exact steady_report_bind _ _
      · refine steady_bind steady_get fun _ => ?_
        rw [note_bind]
        exact steady_bind (steady_edit _) fun _ => steady_pure _

end Blocks

/-! ## Growing -/

/-- The state with another workspace and further ids. -/
def grow (s : Linking) (w : Workspace) (ids : List String) (unnamed : Nat) : Linking :=
  { s with
    workspace := w
    ids := ids.reverse ++ s.ids
    anonymous := s.anonymous + unnamed }

theorem grow_grow (s : Linking) (w w' : Workspace) (ids ids' : List String) (n n' : Nat) :
    (s.grow w ids n).grow w' ids' n' = s.grow w' (ids ++ ids') (n + n') := by
  simp [grow, Nat.add_assoc]

/-! ## Walks -/

section Walks

variable (catalog : Catalog)

theorem steady_attach (parent previous : Option Ref) (r : Ref) :
    Steady (attach parent previous r) := by
  cases previous
  · exact steady_edit _
  · exact steady_edit _

theorem steady_plugValue (r : Ref) (input : String) (child : Option Ref) :
    Steady (plugValue r input child) := steady_edit _

theorem steady_plugStatements (r : Ref) (input : String) (child : Option Ref) :
    Steady (plugStatements r input child) := steady_edit _

mutual

theorem steady_linkChain : ∀ (chain : Chain) (nesting : Nat) (parent previous : Option Ref),
    Steady (linkChain catalog nesting parent previous chain)
  | .none, _, _, _ => steady_pure _
  | .unreadable _, _, _, _ => steady_report_bind _ _
  | .block header inputs next, nesting, parent, previous => by
    rw [linkChain]
    cases catalog header.kind with
    | none => exact steady_report_bind _ _
    | some shape =>
      refine steady_bind (steady_place shape header true nesting) fun placed => ?_
      cases placed with
      | none => exact steady_pure _
      | some placed =>
        exact steady_bind (steady_linkInputs inputs nesting shape _ _) fun _ =>
          steady_bind (steady_attach parent previous _) fun _ =>
          steady_bind (steady_linkChain next nesting _ _) fun _ => steady_pure _

theorem steady_linkValue : ∀ (chain : Chain) (nesting : Nat) (parent : Option Ref),
    Steady (linkValue catalog nesting parent chain)
  | .none, _, _ => steady_pure _
  | .unreadable _, _, _ => steady_report_bind _ _
  | .block header inputs next, nesting, parent => by
    rw [linkValue]
    cases catalog header.kind with
    | none => exact steady_report_bind _ _
    | some shape =>
      dsimp only
      split_ifs
      · exact steady_report_bind _ _
      · refine steady_bind (steady_place shape header false nesting) fun placed => ?_
        cases placed with
        | none => exact steady_pure _
        | some placed =>
          exact steady_bind (steady_linkInputs inputs nesting shape _ _) fun _ =>
            steady_bind (steady_attach parent none _) fun _ => steady_pure _

theorem steady_linkInputs : ∀ (inputs : List (String × Chain)) (nesting : Nat) (shape : Shape)
    (r : Ref) (id : String), Steady (linkInputs catalog nesting shape r id inputs)
  | [], _, _, _, _ => steady_pure _
  | (name, chain) :: rest, nesting, shape, r, id => by
    rw [linkInputs]
    have hrest := steady_linkInputs rest nesting shape r id
    cases shape.input? name with
    | none => exact steady_bind (steady_report _) fun _ => hrest
    | some input =>
      cases input with
      | value accepts =>
        exact steady_bind (steady_linkValue chain (nesting + 1) (some r)) fun _ =>
          steady_bind (steady_plugValue _ _ _) fun _ => hrest
      | statements =>
        exact steady_bind (steady_linkChain chain (nesting + 1) (some r) none) fun _ =>
          steady_bind (steady_plugStatements _ _ _) fun _ => hrest

end

/-- Attaching a block that was put in last, apart from what is in its inputs. -/
theorem clean_attach_bind_iff {β : Type} {s s' : Linking} {w : Workspace} {b : Block}
    {bs : List Block} {ids : List String} {n : Nat} {parent previous : Option Ref}
    (hprev : ∀ p ∈ previous, p < w.size) {f : Unit → Link β} {a : β} :
    Clean (attach parent previous w.size >>= f) (s.grow (w.append (b :: bs)) ids n) a s' ↔
      Clean (f ()) (s.grow
        ((w.hang previous (some w.size)).append (b.attached parent previous :: bs)) ids n) a
          s' := by
  cases previous with
  | none =>
    rw [attach, clean_edit_bind_iff, grow, Workspace.modify_append_cons w rfl]
    rfl
  | some p =>
    rw [attach, clean_edit_bind_iff, grow, Workspace.linkNext_append_cons w (hprev p rfl)]
    rfl

/-- The state after a clean walk through a chain. -/
def afterChain (s : Linking) (parent previous : Option Ref) (chain : Chain) : Linking :=
  s.grow
    ((s.workspace.hang previous (chain.head? s.workspace.size)).append
      ((chain.numbered s.anonymous).layout catalog parent previous s.workspace.size))
    (chain.numbered s.anonymous).ids chain.unnamed

/-- The state after a clean walk through the inputs of the block `r`. -/
def afterInputs (s : Linking) (shape : Shape) (r : Ref) (inputs : List (String × Chain)) :
    Linking :=
  s.grow
    ((s.workspace.modify r fun b =>
        (Chain.headsOfInputs s.workspace.size inputs).foldl (Block.plug shape) b).append
      (Chain.layoutInputs catalog r s.workspace.size (Chain.numberedInputs s.anonymous inputs)))
    (Chain.idsOfInputs (Chain.numberedInputs s.anonymous inputs)) (Chain.unnamedInputs inputs)

/-- A block has its place, and its inputs are walked through. -/
theorem afterInputs_place {s : Linking} {shape : Shape} {header : Header}
    (inputs : List (String × Chain)) :
    afterInputs catalog { s with
        workspace := s.workspace.insert (newBlock shape (s.nextId header) header)
        ids := s.nextId header :: s.ids
        anonymous := s.anonymous + header.unnamed } shape s.workspace.size inputs =
      s.grow
        (s.workspace.append
          ((Chain.headsOfInputs (s.workspace.size + 1) inputs).foldl (Block.plug shape)
              (newBlock shape (s.nextId header) header) ::
            Chain.layoutInputs catalog s.workspace.size (s.workspace.size + 1)
              (Chain.numberedInputs (s.anonymous + header.unnamed) inputs)))
        (s.nextId header ::
          Chain.idsOfInputs (Chain.numberedInputs (s.anonymous + header.unnamed) inputs))
        (header.unnamed + Chain.unnamedInputs inputs) := by
  simp only [afterInputs, grow, Workspace.insert_eq_append, Workspace.size_append,
    List.length_singleton, Workspace.modify_append_cons s.workspace rfl, Workspace.append_append,
    List.singleton_append, List.reverse_cons, List.append_assoc, Nat.add_assoc]

/-- A block is attached, and what is below it is walked through. -/
theorem afterChain_below {s : Linking} {parent previous : Option Ref} {shape : Shape}
    {header : Header} {inputs : List (String × Chain)} {next : Chain}
    (hkind : catalog header.kind = some shape) :
    afterChain catalog
      (s.grow
        ((s.workspace.hang previous (some s.workspace.size)).append
          (((Chain.headsOfInputs (s.workspace.size + 1) inputs).foldl (Block.plug shape)
              (newBlock shape (s.nextId header) header)).attached parent previous ::
            Chain.layoutInputs catalog s.workspace.size (s.workspace.size + 1)
              (Chain.numberedInputs (s.anonymous + header.unnamed) inputs)))
        (s.nextId header ::
          Chain.idsOfInputs (Chain.numberedInputs (s.anonymous + header.unnamed) inputs))
        (header.unnamed + Chain.unnamedInputs inputs))
      none (some s.workspace.size) next =
      afterChain catalog s parent previous (.block header inputs next) := by
  have hshape : catalog.shapeOf (header.numbered s.anonymous).kind = shape := by
    simp [Catalog.shapeOf, Header.numbered, hkind]
  have hhang := Workspace.hang_append_cons (s.workspace.hang previous (some s.workspace.size))
  rw [Workspace.size_hang] at hhang
  simp only [afterChain, grow_grow]
  simp only [grow, Workspace.size_append, Workspace.size_hang, List.length_cons,
    Chain.length_layoutInputs, Chain.sizeOfInputs_numberedInputs, hhang, Workspace.append_append,
    Chain.numbered, Chain.layout, Chain.ids, Chain.unnamed, Chain.headBlock, hshape,
    Chain.headsOfInputs_numberedInputs, Chain.head?_numbered]
  simp [Header.numbered, nextId, Chain.head?, newBlock, Nat.add_assoc, Nat.add_comm 1]

theorem afterChain_none (s : Linking) (parent previous : Option Ref) :
    afterChain catalog s parent previous .none = s := by
  cases previous <;> simp [afterChain, Chain.numbered, Chain.layout, Chain.ids, Chain.unnamed,
    Chain.head?, Workspace.hang, grow]

/-- The first input is walked through and plugged in, and then the others are walked through. -/
theorem afterInputs_cons {s : Linking} {shape : Shape} {r : Nat} (hr : r < s.workspace.size)
    (name : String) (chain : Chain) (rest : List (String × Chain)) :
    afterInputs catalog { afterChain catalog s (some r) none chain with
        workspace := (afterChain catalog s (some r) none chain).workspace.modify r fun b =>
          b.plug shape (name, chain.head? s.workspace.size) } shape r rest =
      afterInputs catalog s shape r ((name, chain) :: rest) := by
  simp only [afterInputs, afterChain, grow, Workspace.hang, Workspace.modify_append_of_lt _ hr,
    Workspace.size_append, Workspace.size_modify, Chain.length_layout, Chain.size_numbered]
  rw [Workspace.modify_append_of_lt _ (by rwa [Workspace.size_modify])]
  simp [Workspace.modify_modify, Function.comp_def, Chain.numberedInputs, Chain.headsOfInputs,
    Chain.layoutInputs, Chain.idsOfInputs, Chain.unnamedInputs, Nat.add_assoc]

/-- The ids of a block, of what is in its inputs and of what is below it are new. -/
theorem fresh_ids_block_iff {s : Linking} {header : Header} {inputs : List (String × Chain)}
    {next : Chain} :
    Fresh s.ids ((Chain.block header inputs next).numbered s.anonymous).ids ↔
      s.nextId header ∉ s.ids ∧
      Fresh (s.nextId header :: s.ids)
        (Chain.idsOfInputs (Chain.numberedInputs (s.anonymous + header.unnamed) inputs)) ∧
      Fresh ((s.nextId header ::
          Chain.idsOfInputs (Chain.numberedInputs (s.anonymous + header.unnamed) inputs)).reverse ++
          s.ids)
        (next.numbered (s.anonymous + (header.unnamed + Chain.unnamedInputs inputs))).ids := by
  have hid : (header.numbered s.anonymous).id.getD "" = s.nextId header := rfl
  rw [Chain.numbered, Chain.ids, hid, fresh_cons_iff, fresh_append_iff, List.reverse_cons,
    List.append_assoc, List.singleton_append, Nat.add_assoc]

mutual

/-- **Linking a chain is clean exactly if every block of it fits and every id is new.** -/
theorem clean_linkChain_iff : ∀ (chain : Chain) {nesting : Nat} {parent previous : Option Ref}
    {s s' : Linking} {a : Option Ref}, (∀ p ∈ previous, p < s.workspace.size) →
      (Clean (linkChain catalog nesting parent previous chain) s a s' ↔
        (chain.Fits catalog .statements nesting ∧ Fresh s.ids (chain.numbered s.anonymous).ids) ∧
          a = chain.head? s.workspace.size ∧ s' = afterChain catalog s parent previous chain)
  | .none, nesting, parent, previous, s, s', a, hprev => by
    rw [linkChain, clean_pure_iff, afterChain_none]
    simp [Chain.fits_none, Chain.numbered, Chain.ids, fresh_nil, Chain.head?]
  | .unreadable cause, nesting, parent, previous, s, s', a, hprev => by
    rw [linkChain, clean_report_bind_iff rfl fun _ => steady_pure _]
    simp [Chain.not_fits_unreadable]
  | .block header inputs next, nesting, parent, previous, s, s', a, hprev => by
    cases hkind : catalog header.kind with
    | none =>
      rw [linkChain, hkind, clean_report_bind_iff rfl fun _ => steady_pure _]
      simp [Chain.not_fits_of_unknown hkind]
    | some shape =>
      have hbelow : ∀ r, Steady (linkChain catalog nesting none (some r) next >>= fun _ =>
          pure (some r)) := fun r => steady_bind (steady_linkChain catalog next _ _ _) fun _ =>
        steady_pure _
      rw [linkChain, hkind, clean_bind_iff_of (steady_place shape header true nesting) _
        fun _ _ => clean_place_iff]
      · dsimp only
        rw [clean_bind_iff_of (steady_linkInputs catalog inputs nesting shape _ _)
          (fun _ => steady_bind (steady_attach _ _ _) fun _ => hbelow _)
          fun _ _ => clean_linkInputs_iff inputs (by simp [Workspace.insert_eq_append]),
          afterInputs_place, clean_attach_bind_iff hprev,
          clean_bind_iff_of (steady_linkChain catalog next nesting _ _) (fun _ => steady_pure _)
          fun _ _ => clean_linkChain_iff next (by simp [grow]),
          clean_pure_iff, afterChain_below catalog hkind,
          Chain.fits_statement_iff hkind, fresh_ids_block_iff]
        -- Both sides now ask for the same, in another order.
        simp only [grow, Chain.head?]
        tauto
      · intro placed
        cases placed with
        | none => exact steady_pure _
        | some placed =>
          exact steady_bind (steady_linkInputs catalog inputs nesting shape _ _) fun _ =>
            steady_bind (steady_attach parent previous _) fun _ => hbelow _

/-- Linking an expression is clean exactly if every block in it fits and every id is new. -/
theorem clean_linkValue_iff : ∀ (chain : Chain) {nesting : Nat} {parent : Option Ref}
    {s s' : Linking} {a : Option Ref},
      (Clean (linkValue catalog nesting parent chain) s a s' ↔
        (chain.Fits catalog .value nesting ∧ Fresh s.ids (chain.numbered s.anonymous).ids) ∧
          a = chain.head? s.workspace.size ∧ s' = afterChain catalog s parent none chain)
  | .none, nesting, parent, s, s', a => by
    rw [linkValue, clean_pure_iff, afterChain_none]
    simp [Chain.fits_none, Chain.numbered, Chain.ids, fresh_nil, Chain.head?]
  | .unreadable cause, nesting, parent, s, s', a => by
    rw [linkValue, clean_report_bind_iff rfl fun _ => steady_pure _]
    simp [Chain.not_fits_unreadable]
  | .block header inputs next, nesting, parent, s, s', a => by
    cases hkind : catalog header.kind with
    | none =>
      rw [linkValue, hkind, clean_report_bind_iff rfl fun _ => steady_pure _]
      simp [Chain.not_fits_of_unknown hkind]
    | some shape =>
      rw [linkValue, hkind, Chain.fits_value_iff hkind]
      dsimp only
      by_cases hbelow : (!shape.isStatement && next.isSome) = true
      · rw [if_pos hbelow, clean_report_bind_iff rfl fun _ => steady_pure _]
        have hne : next ≠ .none := by
          rintro rfl
          simp [Chain.isSome] at hbelow
        simp [hne]
      · rw [if_neg hbelow, clean_bind_iff_of (steady_place shape header false nesting) _
          fun _ _ => clean_place_iff]
        · dsimp only
          rw [clean_bind_iff_of (steady_linkInputs catalog inputs nesting shape _ _)
            (fun _ => steady_bind (steady_attach _ _ _) fun _ => steady_pure _)
            fun _ _ => clean_linkInputs_iff inputs (by simp [Workspace.insert_eq_append]),
            afterInputs_place, clean_attach_bind_iff (by simp), clean_pure_iff]
          by_cases hnext : next = .none
          · subst hnext
            rw [← afterChain_below catalog hkind, afterChain_none, fresh_ids_block_iff]
            simp only [Chain.numbered, Chain.ids, fresh_nil, Chain.head?]
            tauto
          · have hstatement : shape.isStatement = true := by
              cases next <;> simp_all [Chain.isSome]
            simp [hstatement]
        · intro placed
          cases placed with
          | none => exact steady_pure _
          | some placed =>
            exact steady_bind (steady_linkInputs catalog inputs nesting shape _ _) fun _ =>
              steady_bind (steady_attach parent none _) fun _ => steady_pure _

theorem clean_linkInputs_iff : ∀ (inputs : List (String × Chain)) {nesting : Nat} {shape : Shape}
    {r : Nat} {id : String} {s s' : Linking} {u : Unit}, r < s.workspace.size →
      (Clean (linkInputs catalog nesting shape r id inputs) s u s' ↔
        ((∀ input ∈ inputs, (shape.input? input.1).isSome) ∧
          Chain.InputsFit catalog shape (nesting + 1) inputs ∧
          Fresh s.ids (Chain.idsOfInputs (Chain.numberedInputs s.anonymous inputs))) ∧
          u = () ∧ s' = afterInputs catalog s shape r inputs)
  | [], nesting, shape, r, id, s, s', u, hr => by
    have hafter : afterInputs catalog s shape r [] = s := by
      simp [afterInputs, grow, Chain.numberedInputs, Chain.headsOfInputs, Chain.layoutInputs,
        Chain.idsOfInputs, Chain.unnamedInputs, Workspace.modify_self]
    rw [linkInputs, clean_pure_iff, hafter]
    simp [Chain.inputsFit_nil, Chain.numberedInputs, Chain.idsOfInputs, fresh_nil]
  | (name, chain) :: rest, nesting, shape, r, id, s, s', u, hr => by
    have hrest := steady_linkInputs catalog rest nesting shape r id
    have hids : Fresh s.ids (Chain.idsOfInputs (Chain.numberedInputs s.anonymous
        ((name, chain) :: rest))) ↔ Fresh s.ids (chain.numbered s.anonymous).ids ∧
        Fresh (afterChain catalog s (some r) none chain).ids (Chain.idsOfInputs
          (Chain.numberedInputs (afterChain catalog s (some r) none chain).anonymous rest)) := by
      rw [Chain.numberedInputs, Chain.idsOfInputs, fresh_append_iff]
      rfl
    have hr' : ∀ f : Block → Block, r < Workspace.size (Linking.workspace
        { afterChain catalog s (some r) none chain with
          workspace := (afterChain catalog s (some r) none chain).workspace.modify r f }) := by
      intro f
      simp only [afterChain, grow, Workspace.size_modify, Workspace.size_append,
        Workspace.size_hang]
      omega
    rw [linkInputs, Chain.inputsFit_cons_iff, List.forall_mem_cons, hids,
      ← afterInputs_cons catalog hr]
    cases hinput : shape.input? name with
    | none =>
      dsimp only
      rw [clean_report_bind_iff rfl fun _ => hrest]
      simp
    | some input =>
      cases input with
      | value accepts =>
        dsimp only
        rw [clean_bind_iff_of (steady_linkValue catalog chain (nesting + 1) (some r))
          (fun _ => steady_bind (steady_plugValue _ _ _) fun _ => hrest)
          fun _ _ => clean_linkValue_iff chain,
          plugValue, clean_edit_bind_iff, clean_linkInputs_iff rest (hr' _)]
        simp only [Shape.positionIn_of_value hinput, Block.plug, hinput, Option.isSome_some]
        tauto
      | statements =>
        dsimp only
        rw [clean_bind_iff_of (steady_linkChain catalog chain (nesting + 1) (some r) none)
          (fun _ => steady_bind (steady_plugStatements _ _ _) fun _ => hrest)
          fun _ _ => clean_linkChain_iff chain (by simp),
          plugStatements, clean_edit_bind_iff, clean_linkInputs_iff rest (hr' _)]
        simp only [Shape.positionIn_of_statements hinput, Block.plug, hinput, Option.isSome_some]
        tauto

end

end Walks

end Linking

end SceneScript
