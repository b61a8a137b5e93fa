import SceneScript.Proofs.Levels

/-!
# Taking out a block

A block is taken out of a workspace together with all that is in its inputs. What is below it moves
up: whatever led to the block leads to the one below it, and a value's input is left empty. The
blocks that are kept close up, so their places change, and with them all references.

* `Tree.without`, `Tree.forestWithout`: taking a block out of a tree, of a forest.
* `Workspace.extent`: a block and all that is in its inputs.
* `Workspace.without`: the workspace without a block and what is in its inputs.
* **`Workspace.WellLinked.forest?_without`**: the forest of the workspace without a block is the
  forest without the block.
-/

namespace SceneScript

/-! ## Trees without a block -/

namespace Tree

/-- There is a block. -/
def isBlock : Tree → Bool
  | none => false
  | block .. => true

/-- The block has the given id. -/
def hasId (id : String) : Tree → Bool
  | none => false
  | block id' _ _ _ _ _ _ => id' == id

mutual

/-- The tree without the block of an id and what is in its inputs; what is below it moves up. -/
def without (id : String) : Tree → Tree
  | none => none
  | block id' kind enabled fields values statements next =>
    if id' = id then next.without id
    else
      block id' kind enabled fields (valuesWithout id values) (statementsWithout id statements)
        (next.without id)

/-- The values in inputs without the block of an id. -/
def valuesWithout (id : String) : List (String × Tree) → List (String × Tree)
  | [] => []
  | (input, t) :: rest =>
    (input, if t.hasId id then none else t.without id) :: valuesWithout id rest

/-- The chains in inputs without the block of an id. -/
def statementsWithout (id : String) : List (String × Tree) → List (String × Tree)
  | [] => []
  | (input, t) :: rest => (input, t.without id) :: statementsWithout id rest

end

/-- The forest without the block of an id; a chain of which nothing is left disappears. -/
def forestWithout (id : String) (forest : List Tree) : List Tree :=
  (forest.map (without id)).filter isBlock

theorem forestWithout_cons (id : String) (t : Tree) (forest : List Tree) :
    forestWithout id (t :: forest) =
      if (t.without id).isBlock then t.without id :: forestWithout id forest
      else forestWithout id forest := by
  rw [forestWithout, List.map_cons, List.filter_cons]
  rfl

theorem valuesWithout_eq_map (id : String) : ∀ inputs : List (String × Tree),
    valuesWithout id inputs =
      inputs.map fun entry => (entry.1, if entry.2.hasId id then none else entry.2.without id)
  | [] => rfl
  | (_, _) :: rest => by rw [valuesWithout, valuesWithout_eq_map id rest, List.map_cons]

theorem statementsWithout_eq_map (id : String) : ∀ inputs : List (String × Tree),
    statementsWithout id inputs = inputs.map fun entry => (entry.1, entry.2.without id)
  | [] => rfl
  | (_, _) :: rest => by rw [statementsWithout, statementsWithout_eq_map id rest, List.map_cons]

end Tree

/-! ## Reading trees of changed references -/

theorem mapM_map_eq_some {α α' β β' : Type} {f : α → Option β} (f' : α' → Option β') (g : α → α')
    (k : β → β') : ∀ {l : List α} {l' : List β}, l.mapM f = some l' →
      (∀ a ∈ l, ∀ b, f a = some b → f' (g a) = some (k b)) → (l.map g).mapM f' = some (l'.map k)
  | [], _, h, _ => by
    cases h
    rfl
  | a :: l, _, h, hk => by
    rw [List.forall_mem_cons] at hk
    obtain ⟨b, hb, l', hl, rfl⟩ := mapM_cons_eq_some_iff.1 h
    rw [List.map_cons]
    exact mapM_cons_eq_some_iff.2 ⟨k b, hk.1 b hb, _, mapM_map_eq_some f' g k hl hk.2, rfl⟩

theorem mapM_map_entries {f : Option Ref → Option Tree} (f' : Option Ref → Option Tree)
    (g : Option Ref → Option Ref) (k : Tree → Tree) {inputs : List (String × Option Ref)}
    {trees : List (String × Tree)}
    (h : (inputs.mapM fun entry => do return (entry.1, ← f entry.2)) = some trees)
    (hk : ∀ entry ∈ inputs, ∀ t, f entry.2 = some t → f' (g entry.2) = some (k t)) :
    ((inputs.map fun entry => (entry.1, g entry.2)).mapM fun entry => do
      return (entry.1, ← f' entry.2)) = some (trees.map fun entry => (entry.1, k entry.2)) := by
  refine mapM_map_eq_some _ _ _ h fun entry hentry pair hpair => ?_
  obtain ⟨t, ht, ⟨⟩⟩ := Option.bind_eq_some_iff.1 hpair
  exact Option.bind_eq_some_iff.2 ⟨k t, hk entry hentry t ht, rfl⟩

namespace Workspace

theorem treeWithin_of_block {w : Workspace} {depth : Nat} {r : Ref} {b : Block}
    {values statements : List (String × Tree)} {next : Tree} (hb : w.block? r = some b)
    (hvalues : (b.values.entries.mapM fun entry => do
      return (entry.1, ← w.treeWithin depth entry.2)) = some values)
    (hstatements : (b.statements.entries.mapM fun entry => do
      return (entry.1, ← w.treeWithin depth entry.2)) = some statements)
    (hnext : w.treeWithin depth b.next = some next) :
    w.treeWithin (depth + 1) (some r) =
      some (.block b.id b.kind b.enabled b.fields.entries values statements next) := by
  rw [treeWithin]
  exact Option.bind_eq_some_iff.2 ⟨b, hb, Option.bind_eq_some_iff.2 ⟨values, hvalues,
    Option.bind_eq_some_iff.2 ⟨statements, hstatements,
      Option.bind_eq_some_iff.2 ⟨next, hnext, rfl⟩⟩⟩⟩

/-! ## Workspaces without a block -/

/-- A place and all places that can be reached from it, going at most `depth` blocks far. -/
def placesWithin (w : Workspace) : Nat → Ref → List Ref
  | 0, _ => []
  | depth + 1, r =>
    match w.block? r with
    | none => []
    | some b =>
      r :: (b.values.filled ++ b.statements.filled ++ b.next.toList).flatMap (w.placesWithin depth)

/-- A block and all that is in its inputs, but not what is below it. -/
def extent (w : Workspace) (r : Ref) : List Ref :=
  match w.block? r with
  | none => []
  | some b => r :: (b.values.filled ++ b.statements.filled).flatMap (w.placesWithin w.size)

/-- The places of the blocks that are kept when a block is taken out. -/
def kept (w : Workspace) (r : Ref) : List Ref :=
  (List.range w.size).filter fun s => !(w.extent r).contains s

end Workspace

/-- Where something leads that led to `r`. -/
def bypass (r : Ref) (instead held : Option Ref) : Option Ref :=
  if held = some r then instead else held

/-- The block at its new place, when the block at `r` is taken out. -/
def Block.bypassing (b : Block) (r : Ref) (gone : Block) (place : Ref → Ref) : Block :=
  { b with
    values := b.values.mapEntries fun _ held => (bypass r none held).map place
    statements := b.statements.mapEntries fun _ held => (bypass r gone.next held).map place
    linkage :=
      match b.linkage with
      | .statement previous next =>
        .statement ((bypass r gone.previous previous).map place)
          ((bypass r gone.next next).map place)
      | .expression tag => .expression tag
    parent := (bypass r gone.parent b.parent).map place }

/-- The workspace without a block and what is in its inputs. The blocks that are kept close up. -/
def Workspace.without (w : Workspace) (r : Ref) : Workspace :=
  match w.block? r with
  | none => w
  | some gone =>
    let place := (w.kept r).idxOf
    { w with
      blocks := ((w.kept r).filterMap fun s =>
        (w.block? s).map (·.bypassing r gone place)).toArray
      top := w.top.filterMap fun s => (bypass r gone.next (some s)).map place }

/-! ## Closing up -/

theorem getElem?_filterMap_idxOf {α β : Type} [BEq α] [LawfulBEq α] {f : α → Option β} {a : α} :
    ∀ {l : List α}, (∀ x ∈ l, (f x).isSome) → a ∈ l → (l.filterMap f)[l.idxOf a]? = f a
  | [], _, ha => by cases ha
  | x :: rest, hl, ha => by
    rw [List.forall_mem_cons] at hl
    obtain ⟨y, hy⟩ := Option.isSome_iff_exists.1 hl.1
    rw [List.filterMap_cons_some hy]
    by_cases hx : x = a
    · subst hx
      rw [List.idxOf_cons_self, List.getElem?_cons_zero, hy]
    · have hrest : a ∈ rest := (List.mem_cons.1 ha).resolve_left (Ne.symm hx)
      rw [List.idxOf_cons_ne _ hx, List.getElem?_cons_succ]
      exact getElem?_filterMap_idxOf hl.2 hrest

namespace Workspace

variable {w : Workspace} {r : Ref}

theorem mem_kept_iff {s : Ref} : s ∈ w.kept r ↔ s < w.size ∧ s ∉ w.extent r := by
  simp [kept]

/-- Blocks that are kept stay in order. -/
theorem idxOf_kept_lt {s s' : Ref} (hs : s ∈ w.kept r) (hs' : s' ∈ w.kept r) (hlt : s < s') :
    (w.kept r).idxOf s < (w.kept r).idxOf s' := by
  have hsorted : (w.kept r).Pairwise (· < ·) := List.pairwise_lt_range.filter _
  have hi := List.idxOf_lt_length_of_mem hs
  have hi' := List.idxOf_lt_length_of_mem hs'
  rcases Nat.lt_trichotomy ((w.kept r).idxOf s) ((w.kept r).idxOf s') with h | h | h
  · exact h
  · have heq := (List.idxOf_inj hs).1 h
    exact absurd hlt (heq ▸ Nat.lt_irrefl s)
  · have hgt := List.pairwise_iff_getElem.1 hsorted _ _ hi' hi h
    rw [List.getElem_idxOf, List.getElem_idxOf] at hgt
    exact absurd hlt (Nat.lt_asymm hgt)

theorem declared_without : (w.without r).declared = w.declared := by
  unfold without
  cases w.block? r <;> rfl

variable {gone : Block} (hgone : w.block? r = some gone)

include hgone

theorem without_eq : w.without r =
    { w with
      blocks := ((w.kept r).filterMap fun s =>
        (w.block? s).map (·.bypassing r gone (w.kept r).idxOf)).toArray
      top := w.top.filterMap fun s => (bypass r gone.next (some s)).map (w.kept r).idxOf } := by
  rw [without, hgone]

theorem block?_without {s : Ref} {c : Block} (hs : s ∈ w.kept r) (hc : w.block? s = some c) :
    (w.without r).block? ((w.kept r).idxOf s) =
      some (c.bypassing r gone (w.kept r).idxOf) := by
  have hblocks : ∀ s' ∈ w.kept r,
      ((w.block? s').map (·.bypassing r gone (w.kept r).idxOf)).isSome := by
    intro s' hs'
    obtain ⟨c', hc'⟩ := exists_block_of_lt (mem_kept_iff.1 hs').1
    rw [hc']
    rfl
  rw [without_eq hgone, block?, List.getElem?_toArray, getElem?_filterMap_idxOf hblocks hs, hc,
    Option.map_some]

end Workspace

/-! ## References of what is kept -/

namespace Block

variable {b gone : Block} {r : Ref} {place : Ref → Ref}

theorem next_bypassing :
    (b.bypassing r gone place).next = (bypass r gone.next b.next).map place := by
  unfold next bypassing
  cases b.linkage <;> rfl

theorem output_bypassing : (b.bypassing r gone place).output = b.output := by
  unfold output bypassing
  cases b.linkage <;> rfl

end Block

namespace Workspace

variable {catalog : Catalog} {w : Workspace} {r : Ref}

theorem WellLinked.reference_unique (hw : w.WellLinked catalog) {reference reference' : Reference}
    (h : reference ∈ w.references) (h' : reference' ∈ w.references)
    (htarget : reference.target = reference'.target) : reference = reference' :=
  List.inj_on_of_nodup_map (hw.held_once.nodup_iff.2 List.nodup_range) h h' htarget

theorem exists_reference_of_mem {b : Block} {s : Ref} (hb : w.block? r = some b)
    (h : s ∈ b.values.filled ++ b.statements.filled) :
    ∃ port, port ≠ .next ∧ ⟨some r, port, s⟩ ∈ w.references := by
  rcases List.mem_append.1 h with h | h
  · obtain ⟨name, hname⟩ := Dict.mem_filled_iff.1 h
    exact ⟨.value, nofun, mem_references_of_value hb hname⟩
  · obtain ⟨name, hname⟩ := Dict.mem_filled_iff.1 h
    exact ⟨.statements, nofun, mem_references_of_statements hb hname⟩

/-- What can be reached from a place is not before it, and it is held by something that can be
reached. -/
theorem Forward.of_mem_placesWithin (hw : w.Forward) {s : Ref} : ∀ {depth : Nat} {q : Ref},
    s ∈ w.placesWithin depth q → q ≤ s ∧
      (s = q ∨ ∃ p ∈ w.placesWithin depth q, ∃ port, ⟨some p, port, s⟩ ∈ w.references)
  | 0, _, h => by cases h
  | depth + 1, q, h => by
    rw [placesWithin] at h ⊢
    cases hb : w.block? q with
    | none =>
      rw [hb] at h
      cases h
    | some b =>
      rw [hb] at h
      rcases List.mem_cons.1 h with rfl | h
      · exact ⟨Nat.le_refl _, .inl rfl⟩
      · obtain ⟨p, hp, hs⟩ := List.mem_flatMap.1 h
        have hreference : ∃ port, ⟨some q, port, p⟩ ∈ w.references := by
          rcases List.mem_append.1 hp with hp | hp
          · obtain ⟨port, -, hp⟩ := exists_reference_of_mem hb hp
            exact ⟨port, hp⟩
          · exact ⟨.next, mem_references_of_next hb (Option.mem_toList.1 hp)⟩
        obtain ⟨port, hreference⟩ := hreference
        have hlater : q < p := (hw _ hreference).2 q rfl
        obtain ⟨hle, hheld⟩ := hw.of_mem_placesWithin hs
        refine ⟨Nat.le_of_lt (Nat.lt_of_lt_of_le hlater hle), .inr ?_⟩
        rcases hheld with rfl | ⟨p', hp', hheld⟩
        · exact ⟨q, List.mem_cons_self, port, hreference⟩
        · exact ⟨p', List.mem_cons_of_mem _ (List.mem_flatMap.2 ⟨p, hp, hp'⟩), hheld⟩

section Kept

variable (hw : w.WellLinked catalog) (hforward : w.Forward) {gone : Block}
  (hgone : w.block? r = some gone)

include hforward hgone in
/-- What goes with a block is held by something that goes, not from above. -/
theorem of_mem_extent {s : Ref} (hs : s ∈ w.extent r) : s = r ∨ ∃ q ∈ w.extent r, ∃ port,
    ⟨some q, port, s⟩ ∈ w.references ∧ (q = r → port ≠ .next) := by
  rw [extent, hgone] at hs ⊢
  rcases List.mem_cons.1 hs with rfl | hs
  · exact .inl rfl
  · right
    obtain ⟨p, hp, hs⟩ := List.mem_flatMap.1 hs
    obtain ⟨port, hport, hreference⟩ := exists_reference_of_mem hgone hp
    have hlater : r < p := (hforward _ hreference).2 r rfl
    obtain ⟨-, rfl | ⟨q, hq, port', hheld⟩⟩ := hforward.of_mem_placesWithin hs
    · exact ⟨r, List.mem_cons_self, port, hreference, fun _ => hport⟩
    · have hle := (hforward.of_mem_placesWithin hq).1
      refine ⟨q, List.mem_cons_of_mem _ (List.mem_flatMap.2 ⟨p, hp, hq⟩), port', hheld, ?_⟩
      rintro rfl
      exact absurd hle (Nat.not_le.2 hlater)

include hw hforward hgone

/-- What is kept leads to what is kept, or to the block that is taken out. -/
theorem target_mem_kept {reference : Reference} (h : reference ∈ w.references)
    (hholder : ∀ q ∈ reference.holder, q ∈ w.kept r) :
    reference.target = r ∨ reference.target ∈ w.kept r := by
  by_cases hextent : reference.target ∈ w.extent r
  · left
    refine (of_mem_extent hforward hgone hextent).resolve_right ?_
    rintro ⟨q, hq, port, hreference, -⟩
    rw [hw.reference_unique h hreference rfl] at hholder
    exact (mem_kept_iff.1 (hholder q rfl)).2 hq
  · exact .inr (mem_kept_iff.2 ⟨(hforward _ h).1, hextent⟩)

/-- What is below the block that is taken out is kept. -/
theorem next_mem_kept {s : Ref} (hs : gone.next = some s) : r < s ∧ s ∈ w.kept r := by
  have hreference := mem_references_of_next hgone hs
  obtain ⟨hsize, hholder⟩ := hforward _ hreference
  have hlater : r < s := hholder r rfl
  refine ⟨hlater, mem_kept_iff.2 ⟨hsize, fun hextent => ?_⟩⟩
  rcases of_mem_extent hforward hgone hextent with rfl | ⟨q, -, port, hheld, hport⟩
  · exact Nat.lt_irrefl _ hlater
  · cases hw.reference_unique hreference hheld rfl
    exact hport rfl rfl

/-- The blocks that are kept lead to later places. -/
theorem idxOf_lt_of_bypass {q s s' : Ref} {port : Port} (hq : q ∈ w.kept r)
    (hreference : ⟨some q, port, s⟩ ∈ w.references) (hs' : bypass r gone.next (some s) = some s') :
    (w.kept r).idxOf q < (w.kept r).idxOf s' := by
  have hlater : q < s := (hforward _ hreference).2 q rfl
  unfold bypass at hs'
  split_ifs at hs' with hsr
  · cases hsr
    obtain ⟨hbelow, hkept⟩ := next_mem_kept hw hforward hgone hs'
    exact idxOf_kept_lt hq hkept (Nat.lt_trans hlater hbelow)
  · cases hs'
    have hholder : ∀ q' ∈ some q, q' ∈ w.kept r := by
      rintro q' ⟨⟩
      exact hq
    have hkept := (target_mem_kept hw hforward hgone hreference hholder).resolve_left fun h =>
      hsr (congrArg some h)
    exact idxOf_kept_lt hq hkept hlater

/-! ## The forest of what is kept -/

omit hforward in
/-- The tree at a block that is kept, if the trees are known that it leads to. -/
theorem treeWithin_without_of_mem_kept {d d' : Nat} {s : Ref} {t : Tree} (hs : s ∈ w.kept r)
    (h : w.treeWithin (d + 1) (some s) = some t)
    (hchild : ∀ {port : Port} {s' : Ref} {u : Tree}, ⟨some s, port, s'⟩ ∈ w.references →
      w.treeWithin d (some s') = some u →
      (w.without r).treeWithin d' ((bypass r gone.next (some s')).map (w.kept r).idxOf) =
        some (u.without gone.id)) :
    (w.without r).treeWithin (d' + 1) (some ((w.kept r).idxOf s)) =
      some (t.without gone.id) := by
  obtain ⟨_, c, values, statements, next, ⟨⟩, hc, hvalues, hstatements, hnext, rfl⟩ :=
    treeWithin_some h
  have hne : s ≠ r := by
    rintro rfl
    refine (mem_kept_iff.1 hs).2 ?_
    rw [extent, hgone]
    exact List.mem_cons_self
  have hid : c.id ≠ gone.id := fun hid => hne (hw.ref_eq_of_id hc hgone hid)
  have hkeeps : ∀ {instead : Option Ref} {s' : Ref}, s' ≠ r →
      bypass r instead (some s') = some s' := fun hs' => if_neg fun h => hs' (Option.some.inj h)
  rw [Tree.without, if_neg hid, Tree.valuesWithout_eq_map, Tree.statementsWithout_eq_map]
  refine (treeWithin_of_block (block?_without hgone hs hc)
    (mapM_map_entries _ (fun held => (bypass r none held).map (w.kept r).idxOf)
      (fun u => if u.hasId gone.id then .none else u.without gone.id) hvalues ?_)
    (mapM_map_entries _ (fun held => (bypass r gone.next held).map (w.kept r).idxOf)
      (Tree.without gone.id) hstatements ?_) ?_).trans rfl
  · rintro ⟨name, held⟩ hentry u hu
    cases held with
    | none =>
      rw [treeWithin_none] at hu
      cases hu
      exact treeWithin_none _ _
    | some s' =>
      have hvalue : c.valueInput name = some s' := by
        rw [Block.valueInput, Dict.get?_eq_some_iff.2 hentry, Option.join_some]
      obtain ⟨_, c', _, _, _, -, hc', -, -, -, hu'⟩ := treeWithin_some hu
      by_cases hs' : s' = r
      · subst hs'
        cases hgone.symm.trans hc'
        have hempty : bypass s' none (some s') = none := if_pos rfl
        simp only [hempty, hu', Tree.hasId, BEq.rfl, if_true]
        exact treeWithin_none _ _
      · have hid' : c'.id ≠ gone.id := fun hid => hs' (hw.ref_eq_of_id hc' hgone hid)
        have hnot : u.hasId gone.id = false := by rw [hu', Tree.hasId, beq_eq_false_iff_ne.2 hid']
        have htree := hchild (mem_references_of_value hc hvalue) hu
        rw [hkeeps hs'] at htree
        simpa only [hkeeps hs', hnot, Bool.false_eq_true, if_false] using htree
  · rintro ⟨name, held⟩ hentry u hu
    cases held with
    | none =>
      rw [treeWithin_none] at hu
      cases hu
      exact treeWithin_none _ _
    | some s' =>
      have hstatement : c.statementInput name = some s' := by
        rw [Block.statementInput, Dict.get?_eq_some_iff.2 hentry, Option.join_some]
      exact hchild (mem_references_of_statements hc hstatement) hu
  · rw [Block.next_bypassing]
    cases hbelow : c.next with
    | none =>
      rw [hbelow, treeWithin_none] at hnext
      cases hnext
      exact treeWithin_none _ _
    | some s' => exact hchild (mem_references_of_next hc hbelow) (hbelow ▸ hnext)

/-- The tree at a place that is kept, or at the block that is taken out, in the workspace without
this block. -/
theorem treeWithin_without : ∀ {d d' : Nat} {head : Option Ref} {t : Tree},
    (∀ s ∈ head, s = r ∨ s ∈ w.kept r) → w.treeWithin d head = some t →
      (∀ s ∈ bypass r gone.next head, (w.without r).size - (w.kept r).idxOf s ≤ d') →
      (w.without r).treeWithin d' ((bypass r gone.next head).map (w.kept r).idxOf) =
        some (t.without gone.id)
  | d, d', none, t, _, h, _ => by
    rw [treeWithin_none] at h
    cases h
    exact treeWithin_none _ d'
  | 0, _, some s, _, _, h, _ => by cases h
  | d + 1, d', some s, t, hhead, h, hd' => by
    by_cases hs : r = s
    · obtain rfl := hs
      obtain ⟨_, c, values, statements, next, ⟨⟩, hc, hvalues, hstatements, hnext, rfl⟩ :=
        treeWithin_some h
      obtain rfl := Option.some.inj (hgone.symm.trans hc)
      have hbelow : ∀ s ∈ gone.next, r < s ∧ s ∈ w.kept r := fun s hs =>
        next_mem_kept hw hforward hgone hs
      have hsame : bypass r gone.next gone.next = gone.next := if_neg fun hself =>
        Nat.lt_irrefl r (hbelow r hself).1
      have hhere : bypass r gone.next (some r) = gone.next := if_pos rfl
      rw [hhere] at hd' ⊢
      have htree := treeWithin_without (fun s hs => .inr (hbelow s hs).2) hnext (hsame ▸ hd')
      rw [hsame] at htree
      rw [htree, Tree.without, if_pos rfl]
    · have hkept := (hhead s rfl).resolve_left (Ne.symm hs)
      have hhere : bypass r gone.next (some s) = some s :=
        if_neg fun h => hs (Option.some.inj h).symm
      -- Everything that the block leads to is at a later place, so one step less is enough.
      obtain ⟨c, hc⟩ := exists_block_of_lt (mem_kept_iff.1 hkept).1
      have hsize := lt_size_of_block? (block?_without hgone hkept hc)
      have hleft := hd' s hhere
      obtain ⟨d', rfl⟩ := Nat.exists_eq_succ_of_ne_zero
        (Nat.ne_of_gt (Nat.lt_of_lt_of_le (Nat.sub_pos_of_lt hsize) hleft))
      rw [hhere]
      refine treeWithin_without_of_mem_kept hw hgone hkept h fun hreference hu => ?_
      have hholder : ∀ q ∈ some s, q ∈ w.kept r := by
        rintro q ⟨⟩
        exact hkept
      refine treeWithin_without (fun s' hs' => ?_) hu fun s' hs' => ?_
      · cases hs'
        exact target_mem_kept hw hforward hgone hreference hholder
      · have hlater := idxOf_lt_of_bypass hw hforward hgone hkept hreference hs'
        exact Nat.le_of_lt_succ
          (Nat.lt_of_lt_of_le (Nat.sub_lt_sub_left hsize hlater) hleft)

theorem mapM_treeWithin_without : ∀ {top : List Ref} {forest : List Tree},
    (∀ s ∈ top, s = r ∨ s ∈ w.kept r) →
      (top.mapM fun s => w.treeWithin w.size (some s)) = some forest →
      ((top.filterMap fun s => (bypass r gone.next (some s)).map (w.kept r).idxOf).mapM fun s =>
        (w.without r).treeWithin (w.without r).size (some s)) =
          some (Tree.forestWithout gone.id forest)
  | [], _, _, h => by
    cases h
    rfl
  | s :: top, _, htop, h => by
    rw [List.forall_mem_cons] at htop
    obtain ⟨t, ht, forest, hforest, rfl⟩ := mapM_cons_eq_some_iff.1 h
    have hrest := mapM_treeWithin_without htop.2 hforest
    have hhead : ∀ s' ∈ some s, s' = r ∨ s' ∈ w.kept r := by
      rintro s' ⟨⟩
      exact htop.1
    have htree := treeWithin_without hw hforward hgone hhead ht fun s' _ => Nat.sub_le _ _
    rw [Tree.forestWithout_cons]
    cases hbypass : bypass r gone.next (some s) with
    | none =>
      rw [hbypass, Option.map_none, treeWithin_none] at htree
      rw [List.filterMap_cons_none (by rw [hbypass, Option.map_none]), ← Option.some.inj htree,
        Tree.isBlock, if_neg Bool.false_ne_true]
      exact hrest
    | some s' =>
      rw [hbypass, Option.map_some] at htree
      obtain ⟨_, _, _, _, _, -, -, -, -, -, hblock⟩ := treeWithin_some htree
      have hisBlock : (t.without gone.id).isBlock = true := by
        rw [hblock]
        rfl
      rw [List.filterMap_cons_some (by rw [hbypass, Option.map_some]), if_pos hisBlock]
      exact mapM_cons_eq_some_iff.2 ⟨_, htree, _, hrest, rfl⟩

/-- **The forest of what is kept** is the forest without the block that is taken out. -/
theorem WellLinked.forest?_without {forest : List Tree} (hforest : w.forest? = some forest) :
    (w.without r).forest? = some (Tree.forestWithout gone.id forest) := by
  have htop : ∀ s ∈ w.top, s = r ∨ s ∈ w.kept r := fun s hs =>
    target_mem_kept hw hforward hgone (mem_references_iff.2 (.inl ⟨s, hs, rfl⟩)) nofun
  have hmap := mapM_treeWithin_without hw hforward hgone htop hforest
  rw [forest?]
  rw [without_eq hgone] at hmap ⊢
  exact hmap

omit hforward in
theorem WellLinked.output_of_block?_without {s : Ref} {c : Block}
    (hc : (w.without r).block? s = some c) :
    ∃ shape, catalog c.kind = some shape ∧ c.output = shape.output := by
  rw [without_eq hgone, block?, List.getElem?_toArray] at hc
  obtain ⟨q, -, hq⟩ := List.mem_filterMap.1 (List.mem_of_getElem? hc)
  obtain ⟨b, hb, rfl⟩ := Option.map_eq_some_iff.1 hq
  obtain ⟨shape, hshape, hb⟩ := hw.has_shape q b hb
  exact ⟨shape, hshape, Block.output_bypassing.trans hb.output⟩

end Kept

end Workspace

end SceneScript
