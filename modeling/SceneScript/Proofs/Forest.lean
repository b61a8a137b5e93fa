import SceneScript.Linking

/-!
# The forest of a document

A document and a workspace describe the same thing in two ways: nested blocks, and blocks in an
array that refer to each other. Both can be read as a forest.

* `Tree`: a block with all that hangs in its inputs and below it.
* `Chain.numbered`: a chain in which every block has an id; blocks without one are numbered in the
  order of the walk.
* `Document.forest`: the forest that a document describes.
* `Workspace.forest?`: the forest that a workspace holds, read along its references.
* `Chain.sites`: the blocks of a chain in the order of the walk, each with its place.
-/

namespace SceneScript

/-- A block with all that hangs in its inputs and below it, or nothing. -/
inductive Tree where
  | none
  | block (id kind : String) (enabled : Bool) (fields : List (String × FieldValue))
      (values statements : List (String × Tree)) (next : Tree)

/-! ## Numbering -/

/-- One, if the block has no id. -/
def Header.unnamed (header : Header) : Nat := if header.id.isNone then 1 else 0

/-- The header with an id, if `n` blocks without one come before it. -/
def Header.numbered (n : Nat) (header : Header) : Header :=
  { header with id := some (header.id.getD ("__block" ++ toString (n + 1))) }

namespace Chain

mutual

/-- How many blocks of a chain have no id. -/
def unnamed : Chain → Nat
  | none | unreadable _ => 0
  | block header inputs next => header.unnamed + unnamedInputs inputs + next.unnamed

/-- How many blocks in the inputs of a block have no id. -/
def unnamedInputs : List (String × Chain) → Nat
  | [] => 0
  | (_, chain) :: rest => chain.unnamed + unnamedInputs rest

end

mutual

/-- The chain with an id for each of its blocks, if `n` blocks without one come before it. -/
def numbered (n : Nat) : Chain → Chain
  | none => none
  | unreadable cause => unreadable cause
  | block header inputs next =>
    block (header.numbered n) (numberedInputs (n + header.unnamed) inputs)
      (next.numbered (n + header.unnamed + unnamedInputs inputs))

/-- The chains in the inputs of a block with an id for each block. -/
def numberedInputs (n : Nat) : List (String × Chain) → List (String × Chain)
  | [] => []
  | (name, chain) :: rest =>
    (name, chain.numbered n) :: numberedInputs (n + chain.unnamed) rest

end

mutual

/-- The ids of the blocks of a chain in the order of the walk: a block, then what is in its inputs,
then what is below it. -/
def ids : Chain → List String
  | none | unreadable _ => []
  | block header inputs next => header.id.getD "" :: (idsOfInputs inputs ++ next.ids)

/-- The ids of the blocks in the inputs of a block. -/
def idsOfInputs : List (String × Chain) → List String
  | [] => []
  | (_, chain) :: rest => chain.ids ++ idsOfInputs rest

end

/-- How many blocks of chains have no id. -/
def unnamedAll : List Chain → Nat
  | [] => 0
  | chain :: rest => chain.unnamed + unnamedAll rest

/-- Chains one after another with an id for each block. -/
def numberedAll (n : Nat) : List Chain → List Chain
  | [] => []
  | chain :: rest => chain.numbered n :: numberedAll (n + chain.unnamed) rest

end Chain

/-- The chains of a document with an id for each block. -/
def Document.numbered (document : Document) : List Chain := Chain.numberedAll 0 document.chains

/-- The ids of all blocks of a document in the order of the walk. -/
def Document.ids (document : Document) : List String := document.numbered.flatMap Chain.ids

/-! ## The forest of a document -/

namespace Shape

/-- The names of the inputs that take values, in increasing order. -/
def valueNames (shape : Shape) : List String := shape.emptyValues.keys

/-- The names of the inputs that take statements, in increasing order. -/
def statementNames (shape : Shape) : List String := shape.emptyStatements.keys

/-- The input of a name takes values. -/
def takesValue (shape : Shape) (name : String) : Bool :=
  match shape.input? name with
  | some (.value _) => true
  | _ => false

/-- The input of a name takes statements. -/
def takesStatements (shape : Shape) (name : String) : Bool :=
  match shape.input? name with
  | some .statements => true
  | _ => false

/-- The fields of a block: those that the shape has, with a value of the right form. -/
def typed (shape : Shape) (fields : Dict Json) : List (String × FieldValue) :=
  fields.entries.filterMap fun field => do
    return (field.1, ← (← shape.field? field.1).read? field.2)

end Shape

/-- What stands under a name in a list of inputs, or nothing. -/
def Tree.at (name : String) (inputs : List (String × Tree)) : Tree :=
  (inputs.lookup name).getD .none

namespace Chain

mutual

/-- The tree that a chain describes. Every input of a block's shape is there, empty or not. -/
def tree (catalog : Catalog) : Chain → Tree
  | none | unreadable _ => .none
  | block header inputs next =>
    match catalog header.kind with
    | .none => .none
    | some shape =>
      let trees := treesOfInputs catalog inputs
      .block (header.id.getD "") header.kind header.enabled (shape.typed header.fields)
        (shape.valueNames.map fun name =>
          (name, if shape.takesValue name then Tree.at name trees else .none))
        (shape.statementNames.map fun name =>
          (name, if shape.takesStatements name then Tree.at name trees else .none))
        (next.tree catalog)

/-- The trees in the inputs of a block. -/
def treesOfInputs (catalog : Catalog) : List (String × Chain) → List (String × Tree)
  | [] => []
  | (name, chain) :: rest => (name, chain.tree catalog) :: treesOfInputs catalog rest

end

end Chain

/-- The forest that a document describes. -/
def Document.forest (catalog : Catalog) (document : Document) : List Tree :=
  document.numbered.map (Chain.tree catalog)

/-! ## The forest of a workspace -/

namespace Workspace

/-- The tree at a reference, at most `depth` blocks deep. There is none if a reference points
nowhere or the blocks go deeper. -/
def treeWithin (w : Workspace) : Nat → Option Ref → Option Tree
  | _, none => some .none
  | 0, some _ => none
  | depth + 1, some r => do
    let b ← w.block? r
    let values ← b.values.entries.mapM fun input => do
      return (input.1, ← w.treeWithin depth input.2)
    let statements ← b.statements.entries.mapM fun input => do
      return (input.1, ← w.treeWithin depth input.2)
    let next ← w.treeWithin depth b.next
    return .block b.id b.kind b.enabled b.fields.entries values statements next

theorem treeWithin_none (w : Workspace) (depth : Nat) : w.treeWithin depth none = some .none := by
  cases depth <;> rfl

/-- The forest that a workspace holds. Without cycles no block is deeper than there are blocks. -/
def forest? (w : Workspace) : Option (List Tree) :=
  w.top.mapM fun r => w.treeWithin w.size (some r)

end Workspace

/-! ## Places of blocks -/

/-- Where a block stands in a document. -/
inductive Position where
  | top
  | value
  | statements
deriving DecidableEq

/-- Something that is connected somewhere in a document. -/
structure Site where
  position : Position
  /-- In how many inputs it stands. -/
  nesting : Nat
  found : Chain

/-- What the input of a name takes. -/
def Shape.positionIn (shape : Option Shape) (name : String) : Position :=
  if shape.any (·.takesStatements name) then .statements else .value

namespace Chain

mutual

/-- Everything that is connected in a chain, in the order of the walk. -/
def sites (catalog : Catalog) (position : Position) (nesting : Nat) : Chain → List Site
  | none => []
  | unreadable cause => [⟨position, nesting, unreadable cause⟩]
  | block header inputs next =>
    ⟨position, nesting, block header inputs next⟩ ::
      (sitesOfInputs catalog (catalog header.kind) (nesting + 1) inputs ++
        next.sites catalog .statements nesting)

/-- Everything that is connected in the inputs of a block. -/
def sitesOfInputs (catalog : Catalog) (shape : Option Shape) (nesting : Nat) :
    List (String × Chain) → List Site
  | [] => []
  | (name, chain) :: rest =>
    chain.sites catalog (Shape.positionIn shape name) nesting ++
      sitesOfInputs catalog shape nesting rest

end

end Chain

/-- Everything that is connected in a document, in the order of the walk. -/
def Document.sites (catalog : Catalog) (document : Document) : List Site :=
  document.chains.flatMap (Chain.sites catalog .top 0)

end SceneScript
