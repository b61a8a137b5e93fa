import Mathlib.Data.List.Perm.Basic
import SceneScript.Proofs.Arena

/-!
# References between blocks

Every reference of a workspace is held by the list of top-level blocks, by an input of a block or
by a block above another one. In a layout, each block is referred to exactly once, and it knows
from where: the references that are held are a rearrangement of the origins that the blocks name.
All that can be said about parents, about the order of statements and about what stands in which
input follows from this.

* `Reference`, `Workspace.references`: what is held somewhere.
* `Block.origin`, `Workspace.origins`: the one place where a block is held, as the block tells it.
* **`Chain.perm_allOrigins_layoutAll`**: what is held is what the blocks tell.
-/

namespace SceneScript

/-- By what a reference is held. -/
inductive Port where
  | top
  | value
  | statements
  | next
deriving DecidableEq

/-- A reference to a block. -/
structure Reference where
  /-- The block that holds it; none for top-level blocks. -/
  holder : Option Ref
  port : Port
  target : Ref
deriving DecidableEq

namespace Block

/-- The references that the block at `r` holds. -/
def references (r : Ref) (b : Block) : List Reference :=
  b.values.filled.map (⟨some r, .value, ·⟩) ++
    (b.statements.filled.map (⟨some r, .statements, ·⟩) ++ b.next.toList.map (⟨some r, .next, ·⟩))

/-- The reference by which the block at `r` is held, as the block tells it. -/
def origin (r : Ref) (b : Block) : Reference where
  holder := b.parent
  port :=
    if b.previous.isSome then .next
    else if b.parent.isNone then .top
    else if b.isStatement then .statements
    else .value
  target := r

/-- The references that blocks from place `n` on hold. -/
def allReferences (n : Nat) (bs : List Block) : List Reference :=
  (bs.zipIdx n).flatMap fun entry => entry.1.references entry.2

/-- The origins of blocks from place `n` on. -/
def allOrigins (n : Nat) (bs : List Block) : List Reference :=
  (bs.zipIdx n).map fun entry => entry.1.origin entry.2

theorem allReferences_cons (n : Nat) (b : Block) (bs : List Block) :
    allReferences n (b :: bs) = b.references n ++ allReferences (n + 1) bs := by
  simp [allReferences, List.zipIdx_cons]

theorem allReferences_append (n : Nat) (as bs : List Block) :
    allReferences n (as ++ bs) = allReferences n as ++ allReferences (n + as.length) bs := by
  simp [allReferences, List.zipIdx_append]

theorem allOrigins_cons (n : Nat) (b : Block) (bs : List Block) :
    allOrigins n (b :: bs) = b.origin n :: allOrigins (n + 1) bs := by
  simp [allOrigins, List.zipIdx_cons]

theorem allOrigins_append (n : Nat) (as bs : List Block) :
    allOrigins n (as ++ bs) = allOrigins n as ++ allOrigins (n + as.length) bs := by
  simp [allOrigins, List.zipIdx_append]

end Block

namespace Workspace

/-- All references that are held in a workspace. -/
def references (w : Workspace) : List Reference :=
  w.top.map (⟨none, .top, ·⟩) ++ Block.allReferences 0 w.blocks.toList

/-- The origins of all blocks of a workspace. -/
def origins (w : Workspace) : List Reference := Block.allOrigins 0 w.blocks.toList

end Workspace

namespace Chain

/-! ## References in a layout -/

/-- By what a chain is held at its place. -/
def port (position : Position) (previous : Option Ref) : Port :=
  if previous.isSome then .next
  else match position with
    | .top => .top
    | .value => .value
    | .statements => .statements

/-- The parent and the block above are those of a chain at its place: nothing is above or around a
top-level block, and only statements can have a block above them. -/
def Placed (position : Position) (parent previous : Option Ref) : Prop :=
  match position with
  | .top => parent = .none ∧ previous = .none
  | .value => parent.isSome = true ∧ previous = .none
  | .statements => parent.isSome = true ∨ previous.isSome = true

/-- The reference to the first block of a chain, if there is one. -/
def headReference (position : Position) (parent previous : Option Ref) (n : Ref) (chain : Chain) :
    List Reference :=
  (chain.head? n).toList.map (⟨previous.or parent, port position previous, ·⟩)

/-- The references to the first blocks of the chains in the inputs of the block `r`. -/
def inputReferences (shape : Shape) (r : Ref) (heads : List (String × Option Ref)) :
    List Reference :=
  heads.flatMap fun input =>
    input.2.toList.map (⟨some r, port (Shape.positionIn (some shape) input.1) .none, ·⟩)

theorem origin_headBlock {shape : Shape} {header : Header} {heads : List (String × Option Ref)}
    {parent previous below : Option Ref} {position : Position} (n : Ref)
    (hplaced : Placed position parent previous)
    (hstatement : position = .statements → shape.isStatement = true)
    (hvalue : position = .value → shape.isStatement = false) :
    (headBlock shape header heads parent previous below).origin n =
      ⟨previous.or parent, port position previous, n⟩ := by
  rw [headBlock_eq]
  cases position with
  | top =>
    obtain ⟨rfl, rfl⟩ := hplaced
    cases houtput : shape.output <;>
      simp [Block.origin, Block.previous, Block.linkageBetween, port]
  | value =>
    obtain ⟨hparent, rfl⟩ := hplaced
    obtain ⟨p, rfl⟩ := Option.isSome_iff_exists.1 hparent
    have h := hvalue rfl
    rw [Shape.isStatement] at h
    cases houtput : shape.output with
    | none => simp [houtput] at h
    | some tag =>
      simp [Block.origin, Block.previous, Block.isStatement, Block.output, Block.linkageBetween,
        port]
  | statements =>
    have h := hstatement rfl
    rw [Shape.isStatement, Option.isNone_iff_eq_none] at h
    rw [h]
    cases previous with
    | some p => simp [Block.origin, Block.previous, Block.linkageBetween, port]
    | none =>
      obtain ⟨p, rfl⟩ := Option.isSome_iff_exists.1 (hplaced.resolve_right (by simp))
      simp [Block.origin, Block.previous, Block.isStatement, Block.output, Block.linkageBetween,
        port]

theorem perm_inputReferences {shape : Shape} (r : Ref) : ∀ {heads : List (String × Option Ref)},
    (∀ input ∈ heads, (shape.input? input.1).isSome = true) →
    (inputReferences shape r heads).Perm
      (((heads.filter fun input => shape.takesValue input.1).filterMap Prod.snd).map
          (⟨some r, .value, ·⟩) ++
        ((heads.filter fun input => shape.takesStatements input.1).filterMap Prod.snd).map
          (⟨some r, .statements, ·⟩))
  | [], _ => List.Perm.refl _
  | (name, head) :: rest, h => by
    rw [List.forall_mem_cons] at h
    rw [inputReferences, List.flatMap_cons, List.filter_cons, List.filter_cons]
    have hrest := perm_inputReferences r h.2
    obtain ⟨takes, htakes⟩ := Option.isSome_iff_exists.1 h.1
    refine (hrest.append_left _).trans ?_
    cases takes with
    | value accepts =>
      have hvalue : shape.takesValue name = true := Shape.takesValue_iff.2 ⟨accepts, htakes⟩
      have hstatements : shape.takesStatements name = false := by
        simp [Shape.takesStatements, htakes]
      rw [if_pos hvalue, if_neg (by simp [hstatements]), Shape.positionIn_of_value htakes]
      cases head <;> simp [port]
    | statements =>
      have hvalue : shape.takesValue name = false := by simp [Shape.takesValue, htakes]
      have hstatements : shape.takesStatements name = true := Shape.takesStatements_iff.2 htakes
      rw [if_neg (by simp [hvalue]), if_pos hstatements, Shape.positionIn_of_statements htakes]
      cases head with
      | none => simp
      | some target => simpa [port] using List.perm_middle.symm

/-- A block holds just the references to what is in its inputs and to what is below it. -/
theorem perm_references_headBlock {shape : Shape} (header : Header)
    {heads : List (String × Option Ref)} (parent previous : Option Ref) {below : Option Ref}
    (r : Ref)
    (hheads : (heads.map Prod.fst).Nodup)
    (hinputs : ∀ input ∈ heads, (shape.input? input.1).isSome = true)
    (hbelow : shape.isStatement = false → below = .none) :
    ((headBlock shape header heads parent previous below).references r).Perm
      (inputReferences shape r heads ++ below.toList.map (⟨some r, .next, ·⟩)) := by
  rw [Block.references, next_headBlock hbelow, ← List.append_assoc]
  refine List.Perm.append_right _ (List.Perm.trans ?_ (perm_inputReferences r hinputs).symm)
  rw [headBlock_eq]
  have hvalues := Dict.perm_filled_insertAll (d := shape.emptyValues)
    (nodup_filter_heads hheads shape.takesValue) fun input _ => shape.join_get?_emptyValues input.1
  have hstatements := Dict.perm_filled_insertAll (d := shape.emptyStatements)
    (nodup_filter_heads hheads shape.takesStatements) fun input _ =>
      shape.join_get?_emptyStatements input.1
  rw [Dict.filled_eq_nil shape.join_get?_emptyValues, List.append_nil] at hvalues
  rw [Dict.filled_eq_nil shape.join_get?_emptyStatements, List.append_nil] at hstatements
  exact (hvalues.map _).append (hstatements.map _)

theorem isSome_input?_of_mem_heads {catalog : Catalog} {shape : Shape} :
    ∀ {inputs : List (String × Chain)} {n : Ref}, SoundInputs catalog shape inputs →
      ∀ input ∈ headsOfInputs n inputs, (shape.input? input.1).isSome = true
  | [], _, _, _, h => by simp [headsOfInputs] at h
  | (name, chain) :: rest, n, hsound, input, hinput => by
    obtain ⟨hname, -, hrest⟩ := hsound
    rcases List.mem_cons.1 hinput with rfl | hinput
    · exact hname
    · exact isSome_input?_of_mem_heads hrest input hinput

theorem placed_input (shape : Shape) (name : String) (r : Ref) :
    Placed (Shape.positionIn (some shape) name) (some r) .none := by
  unfold Shape.positionIn
  split_ifs
  · exact .inl rfl
  · exact ⟨rfl, rfl⟩

mutual

/-- **The origins of a layout** are the reference to its first block and the references that it
holds. -/
theorem perm_allOrigins_layout {catalog : Catalog} : ∀ (chain : Chain) {position : Position}
    {parent previous : Option Ref} {n : Nat}, chain.Sound catalog position →
      Placed position parent previous →
      (Block.allOrigins n (chain.layout catalog parent previous n)).Perm
        (chain.headReference position parent previous n ++
          Block.allReferences n (chain.layout catalog parent previous n))
  | none, _, _, _, _, _, _ => List.Perm.refl _
  | unreadable _, _, _, _, _, hsound, _ => hsound.elim
  | block header inputs next, position, parent, previous, n, hsound, hplaced => by
    obtain ⟨shape, hkind, hstatement, hvalue, hbelow, hnames, hinputs, hnext⟩ := hsound
    have hheads : ((headsOfInputs (n + 1) inputs).map Prod.fst).Nodup := by
      rw [fst_headsOfInputs]
      exact hnames
    have hnone : shape.isStatement = false →
        next.head? (n + 1 + sizeOfInputs inputs) = .none := by
      intro h
      rw [hbelow h]
      rfl
    have hreferences := perm_references_headBlock header parent previous n hheads
      (isSome_input?_of_mem_heads hinputs) hnone
    have hlayoutInputs := perm_allOrigins_layoutInputs (r := n) (n := n + 1) inputs hinputs
    have hplacedNext : Placed .statements .none (some n) := .inr rfl
    have hlayoutNext := perm_allOrigins_layout (n := n + 1 + sizeOfInputs inputs) next hnext
      hplacedNext
    simp only [layout, Catalog.shapeOf, hkind, Option.getD_some, Block.allOrigins_cons,
      Block.allOrigins_append, Block.allReferences_cons, Block.allReferences_append,
      length_layoutInputs, origin_headBlock n hplaced hstatement hvalue]
    refine List.Perm.cons _ ((hlayoutInputs.append hlayoutNext).trans ?_)
    refine List.Perm.trans ?_ (hreferences.symm.append_right _)
    rw [List.append_assoc, List.append_assoc]
    exact (List.perm_append_comm_assoc _ _ _).append_left _

theorem perm_allOrigins_layoutInputs {catalog : Catalog} {shape : Shape} {r : Ref} :
    ∀ (inputs : List (String × Chain)) {n : Nat}, SoundInputs catalog shape inputs →
      (Block.allOrigins n (layoutInputs catalog r n inputs)).Perm
        (inputReferences shape r (headsOfInputs n inputs) ++
          Block.allReferences n (layoutInputs catalog r n inputs))
  | [], _, _ => List.Perm.refl _
  | (name, chain) :: rest, n, hsound => by
    obtain ⟨-, hchain, hrest⟩ := hsound
    have hlayout := perm_allOrigins_layout (n := n) chain hchain (placed_input shape name r)
    have hlayoutRest := perm_allOrigins_layoutInputs (r := r) (n := n + chain.size) rest hrest
    rw [layoutInputs, Block.allOrigins_append, Block.allReferences_append, length_layout,
      headsOfInputs, inputReferences, List.flatMap_cons]
    refine (hlayout.append hlayoutRest).trans ?_
    rw [List.append_assoc, List.append_assoc]
    exact (List.perm_append_comm_assoc _ _ _).append_left _

end

theorem perm_allOrigins_layoutAll {catalog : Catalog} : ∀ {chains : List Chain} {n : Nat},
    (∀ chain ∈ chains, chain.Sound catalog .top) →
      (Block.allOrigins n (layoutAll catalog n chains)).Perm
        ((headsAll n chains).map (⟨.none, .top, ·⟩) ++
          Block.allReferences n (layoutAll catalog n chains))
  | [], _, _ => List.Perm.refl _
  | chain :: rest, n, hsound => by
    rw [List.forall_mem_cons] at hsound
    have hplaced : Placed .top .none .none := ⟨rfl, rfl⟩
    have hlayout := perm_allOrigins_layout (n := n) chain hsound.1 hplaced
    have hlayoutRest := perm_allOrigins_layoutAll (n := n + chain.size) hsound.2
    rw [layoutAll, Block.allOrigins_append, Block.allReferences_append, length_layout, headsAll,
      List.map_append]
    refine (hlayout.append hlayoutRest).trans ?_
    rw [List.append_assoc, List.append_assoc]
    exact (List.perm_append_comm_assoc _ _ _).append_left _

end Chain

/-! ## References in a workspace -/

namespace Workspace

variable {w : Workspace} {r s : Ref} {b c : Block} {reference : Reference}

theorem mem_zipIdx_blocks_iff : (b, r) ∈ w.blocks.toList.zipIdx ↔ w.block? r = some b := by
  rw [List.mem_zipIdx_iff_getElem?, block?, Array.getElem?_toList]

theorem mem_origins_iff :
    reference ∈ w.origins ↔ ∃ r b, w.block? r = some b ∧ b.origin r = reference := by
  simp only [origins, Block.allOrigins, List.mem_map, Prod.exists, mem_zipIdx_blocks_iff]
  exact exists_comm

theorem mem_references_iff : reference ∈ w.references ↔
    (∃ r ∈ w.top, ⟨none, .top, r⟩ = reference) ∨
      ∃ r b, w.block? r = some b ∧ reference ∈ b.references r := by
  simp only [references, Block.allReferences, List.mem_append, List.mem_map, List.mem_flatMap,
    Prod.exists, mem_zipIdx_blocks_iff]
  exact or_congr_right exists_comm

theorem targets_origins : w.origins.map Reference.target = List.range w.size := by
  simp only [origins, Block.allOrigins, List.map_map]
  exact (List.zipIdx_map_snd 0 w.blocks.toList).trans (by simp [List.range_eq_range', size])

theorem mem_references_of_value (hb : w.block? r = some b) {name : String}
    (h : b.valueInput name = some s) : ⟨some r, .value, s⟩ ∈ w.references := by
  refine mem_references_iff.2 (.inr ⟨r, b, hb, List.mem_append_left _ ?_⟩)
  exact List.mem_map_of_mem (Dict.mem_filled_iff.2 ⟨name, h⟩)

theorem mem_references_of_statements (hb : w.block? r = some b) {name : String}
    (h : b.statementInput name = some s) : ⟨some r, .statements, s⟩ ∈ w.references := by
  refine mem_references_iff.2 (.inr ⟨r, b, hb, List.mem_append_right _ (List.mem_append_left _ ?_)⟩)
  exact List.mem_map_of_mem (Dict.mem_filled_iff.2 ⟨name, h⟩)

theorem mem_references_of_next (hb : w.block? r = some b) (h : b.next = some s) :
    ⟨some r, .next, s⟩ ∈ w.references := by
  refine mem_references_iff.2 (.inr ⟨r, b, hb, ?_⟩)
  refine List.mem_append_right _ (List.mem_append_right _ ?_)
  rw [h]
  exact List.mem_singleton.2 rfl

theorem next_of_mem_references (h : ⟨some r, .next, s⟩ ∈ w.references) :
    ∃ b, w.block? r = some b ∧ b.next = some s := by
  rcases mem_references_iff.1 h with ⟨_, -, h⟩ | ⟨r', b, hb, h⟩
  · cases h
  · simp only [Block.references, List.mem_append, List.mem_map, Option.mem_toList] at h
    rcases h with ⟨_, -, h⟩ | ⟨_, -, h⟩ | ⟨s', hnext, h⟩ <;> cases h
    exact ⟨b, hb, hnext⟩

theorem mem_top_of_mem_references {port : Port} (h : ⟨none, port, s⟩ ∈ w.references) :
    s ∈ w.top := by
  rcases mem_references_iff.1 h with ⟨r, hr, h⟩ | ⟨r, b, -, h⟩
  · cases h
    exact hr
  · simp only [Block.references, List.mem_append, List.mem_map] at h
    rcases h with ⟨_, -, h⟩ | ⟨_, -, h⟩ | ⟨_, -, h⟩ <;> cases h

section Perm

variable (hperm : w.references.Perm w.origins)

include hperm

/-- The block of a reference that is held, which tells so. -/
theorem origin_of_mem_references (h : reference ∈ w.references) :
    ∃ b, w.block? reference.target = some b ∧ b.origin reference.target = reference := by
  obtain ⟨r, b, hb, rfl⟩ := mem_origins_iff.1 (hperm.mem_iff.1 h)
  exact ⟨b, hb, rfl⟩

theorem origin_mem_references (hb : w.block? r = some b) : b.origin r ∈ w.references :=
  hperm.mem_iff.2 (mem_origins_iff.2 ⟨r, b, hb, rfl⟩)

/-- A block is at the top exactly if it has no parent. -/
theorem parent_eq_none_iff (hb : w.block? r = some b) : b.parent = none ↔ r ∈ w.top := by
  constructor
  · intro h
    have horigin := origin_mem_references hperm hb
    rw [Block.origin, h] at horigin
    exact mem_top_of_mem_references horigin
  · intro h
    obtain ⟨c, hc, horigin⟩ := origin_of_mem_references hperm
      (mem_references_iff.2 (.inl ⟨r, h, rfl⟩))
    cases hb.symm.trans hc
    exact congrArg Reference.holder horigin

end Perm

end Workspace

end SceneScript
