import Mathlib.Data.List.Basic
import SceneScript.Proofs.Forest

/-!
# The layout of a chain

Linking puts the blocks of a chain into a workspace one after another, in the order of the walk.
The layout of a chain is the list of these blocks with all their references, written down without
any state: a block stands at the first place, what is in its inputs follows, and then what is below
it.

* `Chain.layout`: the blocks of a chain from a given place on.
* `Workspace.append`: a workspace with further blocks.
-/

namespace SceneScript

/-! ## Blocks with their references -/

namespace Block

/-- The block with something in one of its inputs. -/
def plug (shape : Shape) (b : Block) (input : String × Option Ref) : Block :=
  match shape.input? input.1 with
  | some (.value _) => { b with values := b.values.insert input.1 input.2 }
  | some .statements => { b with statements := b.statements.insert input.1 input.2 }
  | none => b

/-- The block below another one, or else hung into an input or nowhere. -/
def attached (b : Block) (parent previous : Option Ref) : Block :=
  match previous with
  | some p => b.below p
  | none => { b with parent }

/-- The block with another one below it, if there is one. -/
def above (b : Block) : Option Ref → Block
  | some r => b.withNext r
  | none => b

end Block

/-- The shape of a kind; if the kind is not known, any shape. -/
def Catalog.shapeOf (catalog : Catalog) (kind : String) : Shape := (catalog kind).getD default

namespace Chain

/-- The reference of the first block of a chain that is laid out from `n` on. -/
def head? (n : Ref) : Chain → Option Ref
  | block _ _ _ => some n
  | none | unreadable _ => .none

mutual

/-- How many blocks a chain has. -/
def size : Chain → Nat
  | none | unreadable _ => 0
  | block _ inputs next => 1 + sizeOfInputs inputs + next.size

/-- How many blocks there are in the inputs of a block. -/
def sizeOfInputs : List (String × Chain) → Nat
  | [] => 0
  | (_, chain) :: rest => chain.size + sizeOfInputs rest

end

/-- The first blocks of the chains in the inputs of a block. -/
def headsOfInputs (n : Ref) : List (String × Chain) → List (String × Option Ref)
  | [] => []
  | (name, chain) :: rest => (name, chain.head? n) :: headsOfInputs (n + chain.size) rest

/-- A block with its references. -/
def headBlock (shape : Shape) (header : Header) (inputs : List (String × Option Ref))
    (parent previous below : Option Ref) : Block :=
  ((inputs.foldl (Block.plug shape)
    (Linking.newBlock shape (header.id.getD "") header)).attached parent previous).above below

mutual

/-- The blocks of a chain from place `n` on. -/
def layout (catalog : Catalog) (parent previous : Option Ref) (n : Ref) : Chain → List Block
  | none | unreadable _ => []
  | block header inputs next =>
    let below := n + 1 + sizeOfInputs inputs
    headBlock (catalog.shapeOf header.kind) header (headsOfInputs (n + 1) inputs) parent previous
        (next.head? below) ::
      (layoutInputs catalog n (n + 1) inputs ++ next.layout catalog .none (some n) below)

/-- The blocks in the inputs of the block `r`, from place `n` on. -/
def layoutInputs (catalog : Catalog) (r n : Ref) : List (String × Chain) → List Block
  | [] => []
  | (_, chain) :: rest =>
    chain.layout catalog (some r) .none n ++ layoutInputs catalog r (n + chain.size) rest

end

mutual

@[simp] theorem length_layout (catalog : Catalog) (parent previous : Option Ref) (n : Ref) :
    ∀ chain : Chain, (chain.layout catalog parent previous n).length = chain.size
  | none | unreadable _ => rfl
  | block header inputs next => by
    simp only [layout, size, List.length_cons, List.length_append,
      length_layoutInputs catalog n (n + 1) inputs, length_layout _ _ _ _ next]
    omega

@[simp] theorem length_layoutInputs (catalog : Catalog) (r n : Ref) :
    ∀ inputs : List (String × Chain), (layoutInputs catalog r n inputs).length = sizeOfInputs inputs
  | [] => rfl
  | (_, chain) :: rest => by
    simp only [layoutInputs, sizeOfInputs, List.length_append, length_layout _ _ _ _ chain,
      length_layoutInputs _ _ _ rest]

end

mutual

@[simp] theorem size_numbered (n : Nat) : ∀ chain : Chain, (chain.numbered n).size = chain.size
  | none | unreadable _ => rfl
  | block header inputs next => by
    simp only [numbered, size, sizeOfInputs_numberedInputs _ inputs, size_numbered _ next]

@[simp] theorem sizeOfInputs_numberedInputs (n : Nat) : ∀ inputs : List (String × Chain),
    sizeOfInputs (numberedInputs n inputs) = sizeOfInputs inputs
  | [] => rfl
  | (_, chain) :: rest => by
    simp only [numberedInputs, sizeOfInputs, size_numbered _ chain,
      sizeOfInputs_numberedInputs _ rest]

end

@[simp] theorem head?_numbered (n : Nat) (r : Ref) (chain : Chain) :
    (chain.numbered n).head? r = chain.head? r := by
  cases chain <;> simp [numbered, head?]

@[simp] theorem headsOfInputs_numberedInputs (n : Nat) (r : Ref) :
    ∀ inputs : List (String × Chain),
      headsOfInputs r (numberedInputs n inputs) = headsOfInputs r inputs
  | [] => rfl
  | (_, chain) :: rest => by
    simp only [numberedInputs, headsOfInputs, head?_numbered, size_numbered,
      headsOfInputs_numberedInputs _ _ rest]

/-- The blocks of chains one after another, from place `n` on. -/
def layoutAll (catalog : Catalog) (n : Ref) : List Chain → List Block
  | [] => []
  | chain :: rest =>
    chain.layout catalog .none .none n ++ layoutAll catalog (n + chain.size) rest

/-- The first blocks of chains that are laid out one after another. -/
def headsAll (n : Ref) : List Chain → List Ref
  | [] => []
  | chain :: rest => (chain.head? n).toList ++ headsAll (n + chain.size) rest

end Chain

/-! ## Workspaces with further blocks -/

namespace Workspace

variable (w : Workspace)

/-- The workspace with further blocks. -/
def append (bs : List Block) : Workspace := { w with blocks := w.blocks ++ bs.toArray }

/-- The workspace in which the block `r`, if there is one, hangs below the block `p`. -/
def hang (p r : Option Ref) : Workspace :=
  match p, r with
  | some p, some r => w.modify p (·.withNext r)
  | _, _ => w

@[simp] theorem append_nil : w.append [] = w := by simp [append]

@[simp] theorem append_append (as bs : List Block) :
    (w.append as).append bs = w.append (as ++ bs) := by
  simp [append, Array.append_assoc]

theorem insert_eq_append (b : Block) : w.insert b = w.append [b] := by
  simp [insert, append]

@[simp] theorem size_append (bs : List Block) : (w.append bs).size = w.size + bs.length := by
  simp [append, size]

@[simp] theorem size_modify (r : Ref) (f : Block → Block) : (w.modify r f).size = w.size := by
  simp [modify, size]

@[simp] theorem size_hang (p r : Option Ref) : (w.hang p r).size = w.size := by
  unfold hang
  split <;> simp

theorem modify_append_of_lt {r : Nat} (h : r < w.size) (f : Block → Block) (bs : List Block) :
    (w.append bs).modify r f = (w.modify r f).append bs := by
  have hr : r < w.blocks.size := h
  have hblocks : (w.blocks ++ bs.toArray).modify r f = w.blocks.modify r f ++ bs.toArray := by
    apply Array.ext_getElem?
    intro i
    simp only [Array.getElem?_modify, Array.getElem?_append, Array.size_modify]
    by_cases hi : r = i
    · subst hi
      simp [hr]
    · simp [hi]
  simp only [modify, append, hblocks]

theorem modify_self (r : Ref) : (w.modify r fun b => b) = w := by
  have hblocks : (w.blocks.modify r fun b => b) = w.blocks := by
    apply Array.ext_getElem?
    intro i
    simp only [Array.getElem?_modify]
    split_ifs <;> simp
  simp only [modify, hblocks]

theorem modify_modify (r : Ref) (f g : Block → Block) :
    (w.modify r f).modify r g = w.modify r (g ∘ f) := by
  have hblocks : (w.blocks.modify r f).modify r g = w.blocks.modify r (g ∘ f) := by
    apply Array.ext_getElem?
    intro i
    simp only [Array.getElem?_modify]
    split_ifs <;> simp
  simp only [modify, hblocks]

/-- Changing the first of the further blocks. -/
theorem modify_append_cons {n : Nat} (hn : n = w.size) (f : Block → Block) (b : Block)
    (bs : List Block) : (w.append (b :: bs)).modify n f = w.append (f b :: bs) := by
  subst hn
  have hblocks : (w.blocks ++ (b :: bs).toArray).modify w.blocks.size f =
      w.blocks ++ (f b :: bs).toArray := by
    apply Array.ext_getElem?
    intro i
    simp only [Array.getElem?_modify, Array.getElem?_append, List.getElem?_toArray]
    rcases Nat.lt_trichotomy i w.blocks.size with h | rfl | h
    · simp [h, Nat.ne_of_gt h]
    · simp
    · obtain ⟨k, rfl⟩ := Nat.exists_eq_add_of_lt h
      have hk : w.blocks.size + k + 1 - w.blocks.size = k + 1 := by omega
      rw [if_neg (by omega), if_neg (by omega), if_neg (by omega), hk]
      simp
  simp only [modify, append, size, hblocks]

/-- Hanging a new block below an old one. -/
theorem linkNext_append_cons {p : Nat} (hp : p < w.size) (b : Block) (bs : List Block) :
    (w.append (b :: bs)).linkNext p w.size =
      (w.hang (some p) (some w.size)).append (b.below p :: bs) := by
  have hlt : p < (w.append (b :: bs)).size := by rw [size_append]; omega
  rw [linkNext, if_pos hlt, modify_append_of_lt w hp, hang,
    modify_append_cons _ (size_modify w p _).symm]

/-- Hanging a block below the first of the further blocks. -/
theorem hang_append_cons (r : Option Ref) (b : Block) (bs : List Block) :
    (w.append (b :: bs)).hang (some w.size) r = w.append (b.above r :: bs) := by
  cases r with
  | none => rfl
  | some r => exact modify_append_cons w rfl _ b bs

end Workspace

end SceneScript
