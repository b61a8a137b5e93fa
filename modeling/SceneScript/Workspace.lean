import SceneScript.Dict
import SceneScript.Field

/-!
# Workspaces

The blocks of a program stand in an array and refer to each other by their places in it. Nothing
keeps a reference from pointing outside the array; whoever follows one has to expect that.

* `Block`, `Linkage`: a block, and how it hangs in the program.
* `Variable`: a declared variable.
* `Workspace`: all blocks, the top-level ones among them, and the variables.
* `Workspace.linkNext`, `Workspace.chain`: putting a statement below another, and walking down.
-/

namespace SceneScript

/-- The place of a block in its workspace. -/
abbrev Ref := Nat

/-- How a block hangs in the program. -/
inductive Linkage where
  | statement (previous next : Option Ref)
  | expression (output : SocketTag)
deriving DecidableEq, Inhabited

/-- A block of the program. -/
@[ext]
structure Block where
  id : String
  kind : String
  fields : Dict FieldValue := .empty
  /-- The blocks in the inputs that take values. -/
  values : Dict (Option Ref) := .empty
  /-- The heads of the chains in the inputs that take statements. -/
  statements : Dict (Option Ref) := .empty
  linkage : Linkage
  /-- A block that is not enabled contributes no code. -/
  enabled : Bool := true
  /-- The block above this one, or the one whose input it hangs in. -/
  parent : Option Ref := none

namespace Block

instance : DecidableEq Block := fun _ _ => decidable_of_iff _ Block.ext_iff.symm

/-- How a block of the given output hangs in the program before it is linked. -/
def freeLinkage : Option SocketTag → Linkage
  | none => .statement none none
  | some tag => .expression tag

/-- The tag of the value of an expression. -/
def output (b : Block) : Option SocketTag :=
  match b.linkage with
  | .expression tag => some tag
  | .statement _ _ => none

/-- The block is a statement. -/
def isStatement (b : Block) : Bool := b.output.isNone

/-- The statement below this one. -/
def next (b : Block) : Option Ref :=
  match b.linkage with
  | .statement _ next => next
  | .expression _ => none

/-- The statement above this one. -/
def previous (b : Block) : Option Ref :=
  match b.linkage with
  | .statement previous _ => previous
  | .expression _ => none

/-- The block in the input of a name. -/
def valueInput (b : Block) (name : String) : Option Ref := (b.values.get? name).join

/-- The head of the chain in the input of a name. -/
def statementInput (b : Block) (name : String) : Option Ref := (b.statements.get? name).join

/-- The block with another statement below it; an expression stays as it is. -/
def withNext (b : Block) (next : Ref) : Block :=
  match b.linkage with
  | .statement previous _ => { b with linkage := .statement previous (some next) }
  | .expression _ => b

/-- The block hung below another one. -/
def below (b : Block) (previous : Ref) : Block :=
  match b.linkage with
  | .statement _ next =>
    { b with linkage := .statement (some previous) next, parent := some previous }
  | .expression _ => { b with parent := some previous }

end Block

/-- A declared variable. -/
structure Variable where
  /-- The key by which fields refer to the variable. -/
  id : String
  /-- The name that the editor shows. -/
  name : String
  tag : SocketTag
deriving DecidableEq, Inhabited

/-- The blocks and variables of a program. -/
@[ext]
structure Workspace where
  blocks : Array Block := #[]
  /-- The blocks that hang nowhere, in the order of the editor. -/
  top : List Ref := []
  /-- The variables in the order of their declaration. -/
  declared : List Variable := []

namespace Workspace

instance : Inhabited Workspace := ⟨{}⟩

theorem ext_iff_toList {w w' : Workspace} : w = w' ↔
    w.blocks.toList = w'.blocks.toList ∧ w.top = w'.top ∧ w.declared = w'.declared := by
  rw [Workspace.ext_iff, Array.toList_inj]

instance : DecidableEq Workspace := fun _ _ => decidable_of_iff _ ext_iff_toList.symm

/-! ## Building -/

/-- The reference that the next block will have. -/
def nextRef (w : Workspace) : Ref := w.blocks.size

/-- Adds a block; its reference is `nextRef`. -/
def insert (w : Workspace) (b : Block) : Workspace :=
  { w with blocks := w.blocks.push b }

/-- Changes one block. -/
def modify (w : Workspace) (r : Ref) (f : Block → Block) : Workspace :=
  { w with blocks := w.blocks.modify r f }

/-- Adds a top-level block. -/
def pushTop (w : Workspace) (r : Ref) : Workspace :=
  { w with top := w.top ++ [r] }

/-- Declares a variable. -/
def declare (w : Workspace) (v : Variable) : Workspace :=
  { w with declared := w.declared ++ [v] }

/-! ## Reading -/

/-- The block of a reference. -/
def block? (w : Workspace) (r : Ref) : Option Block := w.blocks[r]?

/-- How many blocks there are. -/
def size (w : Workspace) : Nat := w.blocks.size

/-- The first block of an id. -/
def find? (w : Workspace) (id : String) : Option Ref :=
  w.blocks.findIdx? (·.id == id)

/-- The first variable of an id. -/
def declared? (w : Workspace) (id : String) : Option Variable :=
  w.declared.find? (·.id == id)

/-- The first variable of a name. -/
def declaredByName? (w : Workspace) (name : String) : Option Variable :=
  w.declared.find? (·.name == name)

/-! ## Chains -/

/-- Puts `next` below `prev`. Only statements have a place above and below them. A `prev` that does
not exist leaves everything as it is; a `next` that does not exist leaves only `prev` changed. -/
def linkNext (w : Workspace) (prev next : Ref) : Workspace :=
  if prev < w.size then (w.modify prev (·.withNext next)).modify next (·.below prev) else w

/-- The chain from a block downwards, at most `limit` blocks of it. It ends at a reference that
points nowhere. -/
def chain (w : Workspace) : Nat → Option Ref → List (Ref × Block)
  | 0, _ | _, none => []
  | limit + 1, some r =>
    match w.block? r with
    | none => []
    | some b => (r, b) :: w.chain limit b.next

end Workspace

end SceneScript
