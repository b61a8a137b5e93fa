import SceneScript.Generator
import SceneScript.Proofs.Forest

/-!
# Nodes of trees

What is known about a block apart from what is in its inputs: its id, its kind and its fields. The
names that fields of variables refer to are handed out one after another, so asking for one changes
which names are in use.

* `Naming`: a step that hands out names.
* `Node.text`, `Node.number`, `Node.identifier`: what a field holds, or what it holds at first.
* `Tree.refusedBy`: a value that an input does not accept.
-/

namespace SceneScript

/-! ## Handing out names -/

/-- A step that hands out names. -/
abbrev Naming := StateM Scope

namespace Naming

/-- The identifier of a key. -/
def resolve (key : String) : Naming String := do
  let s ← get
  let (name, names) := s.names.resolve key
  set { s with names }
  return name

/-- A name for a field that creates a variable; the same field of a block keeps its name. -/
def freshName (id field stem : String) : Naming String := do
  let s ← get
  match s.fresh.lookup (id, field) with
  | some name => return name
  | none =>
    let (name, names) := s.names.claim stem
    set ({ names, fresh := ((id, field), name) :: s.fresh } : Scope)
    return name

end Naming

/-! ## Blocks without their inputs -/

/-- A block as the rule of its kind sees it, apart from its inputs. -/
structure Node where
  id : String
  kind : String
  fields : List (String × FieldValue)

/-- The block of a workspace as a node. -/
def Block.node (b : Block) : Node := ⟨b.id, b.kind, b.fields.entries⟩

namespace Node

variable (registry : Registry) (node : Node) (field : String)

/-- What kind of field a block has under a name. -/
def fieldKind? : Option FieldKind := (registry.shape? node.kind).bind (·.field? field)

/-- What a field of literals holds at first. -/
def initial? : Option FieldValue := (node.fieldKind? registry field).bind FieldKind.default?

/-- The text in a field. -/
def text : String :=
  (((node.fields.lookup field).bind FieldValue.text?).or
    ((node.initial? registry field).bind FieldValue.text?)).getD ""

/-- The number in a field. -/
def number : Double :=
  (((node.fields.lookup field).bind FieldValue.number?).or
    ((node.initial? registry field).bind FieldValue.number?)).getD .zero

/-- The identifier that an unset field of variables stands for. -/
def unsetVariable (tag : SocketTag) : VariableDefault → Naming String
  | .first fallback => do
    match (← get).names.firstOfTag? tag with
    | some v => Naming.resolve v.id
    | none => return fallback
  | .fresh stem => Naming.freshName node.id field stem

/-- The identifier that a field of variables refers to. -/
def identifier : Naming String :=
  match (node.fields.lookup field).bind FieldValue.reference? with
  | some id => Naming.resolve id
  | none =>
    match node.fieldKind? registry field with
    | some (.reference tag initial) => node.unsetVariable field tag initial
    | _ => return ""

/-- The output of a kind. -/
def output? : Option SocketTag := (registry.shape? node.kind).bind Shape.output

end Node

/-! ## Values and inputs -/

namespace Tree

/-- The tag of the value of a tree's block. -/
def output? (registry : Registry) : Tree → Option SocketTag
  | none => .none
  | block _ kind _ _ _ _ _ => (registry.shape? kind).bind Shape.output

/-- The value of a tree is refused by an input of a kind. -/
def refusedBy (registry : Registry) (kind input : String) (t : Tree) : Bool :=
  match (registry.shape? kind).bind (·.accepted? input), t.output? registry with
  | some accepted, some tag => !accepted.accepts tag
  | _, _ => false

end Tree

end SceneScript
