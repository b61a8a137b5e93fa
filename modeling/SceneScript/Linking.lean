import SceneScript.Document
import SceneScript.Double.Read
import SceneScript.Log
import SceneScript.Problem
import SceneScript.Shape
import SceneScript.Text.Blank

/-!
# From documents to workspaces

Linking walks through a document from left to right, gives every block its place in the workspace
and connects it, and reports whatever does not fit the shapes of the blocks. A block that does not
fit is left out together with what hangs below it, and the walk goes on behind it.

* `FieldKind.read?`: the value of a field from JSON.
* `Linking`: the workspace so far, the findings and the ids in use.
* `LinkT`, `Link`: a step of linking, with or without a log.
* `link`, `parse`: the workspace of a document, of a text. There is one only if there is no error.
* `parseLog`: the events on the way to it.
-/

namespace SceneScript

/-- The shapes of the known kinds of blocks. -/
abbrev Catalog := String → Option Shape

/-! ## Fields -/

/-- The value of a field from JSON. A value of another form is dropped. -/
def FieldKind.read? : FieldKind → Json → Option FieldValue
  | .reference _ _, .object members =>
    match (Json.object members).member? "id" with
    | some (.string id) => some (.reference id)
    | _ => none
  | .reference _ _, .string id => some (.reference id)
  | .number _, .number n => some (.number n.toDouble)
  | .number _, .string s => (Double.ofText? (Text.trim s.toList)).map .number
  | .text _, .string s => some (.text s)
  | .text _, .number n => some (.text n.text)
  | .colour _, .string s => some (.colour s)
  | .checkbox _, .bool b => some (.checkbox b)
  | .checkbox _, .string s =>
    if s = "TRUE" ∨ s = "true" then some (.checkbox true)
    else if s = "FALSE" ∨ s = "false" then some (.checkbox false)
    else none
  | .dropdown _, .string s => some (.dropdown s)
  | _, _ => none

/-- The values of the fields that a shape has; others are dropped. -/
def Shape.readFields (shape : Shape) (fields : Dict Json) : Dict FieldValue :=
  .ofList <| fields.entries.filterMap fun (name, json) => do
    let kind ← shape.field? name
    let value ← kind.read? json
    return (name, value)

/-- The fields that a shape has and whose values are dropped. -/
def Shape.droppedFields (shape : Shape) (id : String) (fields : Dict Json) : List Event :=
  fields.entries.filterMap fun (name, json) => do
    let kind ← shape.field? name
    if (kind.read? json).isSome then none else some (.droppedField id name)

/-- The inputs of a shape that take values, all of them empty. -/
def Shape.emptyValues (shape : Shape) : Dict (Option Ref) :=
  .ofList <| shape.inputs.filterMap fun
    | (name, .value _) => some (name, none)
    | (_, .statements) => none

/-- The inputs of a shape that take statements, all of them empty. -/
def Shape.emptyStatements (shape : Shape) : Dict (Option Ref) :=
  .ofList <| shape.inputs.filterMap fun
    | (name, .statements) => some (name, none)
    | (_, .value _) => none

/-! ## The walk -/

/-- The state of linking. -/
structure Linking where
  workspace : Workspace := {}
  diagnostics : Diagnostics := {}
  /-- The ids of the blocks so far. -/
  ids : List String := []
  /-- How many blocks without an id there were. -/
  anonymous : Nat := 0

/-- A step of linking, made of steps of another kind. -/
abbrev LinkT (m : Type → Type) := StateT Linking m

/-- A step of linking without a log. -/
abbrev Link := LinkT Id

namespace Linking

/-- In how many inputs a block can stand. -/
def maxNesting : Nat := 64

section Walk

variable {m : Type → Type} [Monad m] [MonadLog m]

/-- Notes events in the log. -/
def note (events : List Event) : LinkT m Unit := StateT.lift (MonadLog.note events)

/-- Without a log, nothing is noted. -/
@[simp] theorem note_bind {α : Type} (events : List Event) (f : Unit → Link α) :
    note events >>= f = f () := rfl

/-- Reports a finding. -/
def report (problem : Problem) : LinkT m Unit :=
  modify fun s => { s with diagnostics := s.diagnostics.push problem.diagnostic }

/-- Changes the workspace. -/
def edit (f : Workspace → Workspace) : LinkT m Unit :=
  modify fun s => { s with workspace := f s.workspace }

/-- Takes an id into use, unless it is in use already. -/
def takeId (id : String) : LinkT m (Option String) := do
  if (← get).ids.contains id then
    report (.duplicateBlock id)
    return none
  else
    modify fun s => { s with ids := id :: s.ids }
    return some id

/-- The id of a block. Blocks without an id are numbered. -/
def claimId : Option String → LinkT m (Option String)
  | some id => takeId id
  | none => do
    modify fun s => { s with anonymous := s.anonymous + 1 }
    takeId ("__block" ++ toString (← get).anonymous)

/-- The block of a shape and a header, before anything is connected to it. -/
def newBlock (shape : Shape) (id : String) (header : Header) : Block where
  id := id
  kind := shape.kind
  fields := shape.readFields header.fields
  values := shape.emptyValues
  statements := shape.emptyStatements
  linkage := Block.freeLinkage shape.output
  enabled := header.enabled

/-- Gives a block its place, if it can stand where it is. The answer is its reference and id. -/
def place (shape : Shape) (header : Header) (asStatement : Bool) (nesting : Nat) :
    LinkT m (Option (Ref × String)) := do
  match ← claimId header.id with
  | none => return none
  | some id =>
    if maxNesting < nesting then
      report (.tooDeep id nesting maxNesting)
      return none
    else if shape.isStatement != asStatement then
      report (.misplaced id shape.kind asStatement)
      return none
    else
      let r := (← get).workspace.nextRef
      note (shape.droppedFields id header.fields)
      edit (·.insert (newBlock shape id header))
      return some (r, id)

/-- Hangs a block below another one, or else into an input or nowhere. -/
def attach (parent previous : Option Ref) (r : Ref) : LinkT m Unit :=
  match previous with
  | some p => edit (·.linkNext p r)
  | none => edit (·.modify r fun b => { b with parent })

/-- Connects a block, or nothing, to an input that takes values. -/
def plugValue (r : Ref) (input : String) (child : Option Ref) : LinkT m Unit :=
  edit (·.modify r fun b => { b with values := b.values.insert input child })

/-- Connects a chain, or nothing, to an input that takes statements. -/
def plugStatements (r : Ref) (input : String) (child : Option Ref) : LinkT m Unit :=
  edit (·.modify r fun b => { b with statements := b.statements.insert input child })

mutual

/-- Links a chain of statements; the answer is its head. -/
def linkChain (catalog : Catalog) (nesting : Nat) (parent previous : Option Ref) :
    Chain → LinkT m (Option Ref)
  | .none => return none
  | .unreadable cause => do
    report (.unreadableBlock cause)
    return none
  | .block header inputs next => do
    match catalog header.kind with
    | none =>
      report (.unknownKind header.kind header.id)
      return none
    | some shape =>
      match ← place shape header true nesting with
      | none => return none
      | some (r, id) =>
        linkInputs catalog nesting shape r id inputs
        attach parent previous r
        let _below ← linkChain catalog nesting none (some r) next
        return some r

/-- Links an expression; nothing can stand below it. -/
def linkValue (catalog : Catalog) (nesting : Nat) (parent : Option Ref) :
    Chain → LinkT m (Option Ref)
  | .none => return none
  | .unreadable cause => do
    report (.unreadableBlock cause)
    return none
  | .block header inputs next => do
    match catalog header.kind with
    | none =>
      report (.unknownKind header.kind header.id)
      return none
    | some shape =>
      if !shape.isStatement && next.isSome then
        report (.belowExpression (header.id.getD "") header.kind)
        return none
      else
        match ← place shape header false nesting with
        | none => return none
        | some (r, id) =>
          linkInputs catalog nesting shape r id inputs
          attach parent none r
          return some r

/-- Links what is connected to the inputs of a block. -/
def linkInputs (catalog : Catalog) (nesting : Nat) (shape : Shape) (r : Ref) (id : String) :
    List (String × Chain) → LinkT m Unit
  | [] => return ()
  | (name, chain) :: rest => do
    match shape.input? name with
    | none => report (.unknownInput id shape.kind name)
    | some (.value _) =>
      let child ← linkValue catalog (nesting + 1) (some r) chain
      plugValue r name child
    | some .statements =>
      let child ← linkChain catalog (nesting + 1) (some r) none chain
      plugStatements r name child
    linkInputs catalog nesting shape r id rest

end

/-- The block at the head of a chain is an expression. -/
def isExpression (catalog : Catalog) : Chain → Bool
  | .block header _ _ => (catalog header.kind).any fun shape => !shape.isStatement
  | _ => false

/-- Adds the head of a chain to the top-level blocks. -/
def pushHead : Option Ref → LinkT m Unit
  | none => return ()
  | some r => edit (·.pushTop r)

/-- Links a top-level block with what hangs below it. -/
def linkTop (catalog : Catalog) (chain : Chain) : LinkT m Unit := do
  if isExpression catalog chain then pushHead (← linkValue catalog 0 none chain)
  else pushHead (← linkChain catalog 0 none none chain)

/-- Declares a variable of the document. -/
def declare (v : Declaration) : LinkT m Unit := do
  let w := (← get).workspace
  match SocketTag.ofName? v.type with
  | none => report (.unknownTag v.name v.type)
  | some tag =>
    if (w.declared? v.id).isSome then report (.duplicateVariableId v.id)
    else if (w.declaredByName? v.name).isSome then report (.duplicateVariableName v.name)
    else edit (·.declare ⟨v.id, v.name, tag⟩)

/-- Links a whole document. -/
def linkDocument (catalog : Catalog) (document : Document) : LinkT m Unit := do
  document.declarations.forM declare
  document.chains.forM (linkTop catalog)

end Walk

end Linking

/-! ## Results -/

/-- A workspace, if there is no error, and the findings. -/
structure Linked where
  workspace : Option Workspace
  diagnostics : Diagnostics

/-- The workspace of a document. -/
def link (catalog : Catalog) (document : Document) : Linked :=
  let ((), s) := (Linking.linkDocument catalog document).run {}
  ⟨if s.diagnostics.hasErrors then none else some s.workspace, s.diagnostics⟩

/-- The events on the way to the workspace of a document. -/
def linkLog (catalog : Catalog) (document : Document) : List Event :=
  let walk : Logged (Unit × Linking) := (Linking.linkDocument catalog document).run {}
  (walk.run []).2

/-- The workspace of a text. -/
def parse (catalog : Catalog) (text : String) : Linked :=
  match Document.ofText text with
  | .ok document => link catalog document
  | .error cause => ⟨none, Diagnostics.empty.push (Problem.unreadableDocument cause).diagnostic⟩

/-- The events on the way to the workspace of a text. -/
def parseLog (catalog : Catalog) (text : String) : List Event :=
  match Document.ofText text with
  | .ok document => linkLog catalog document
  | .error _ => []

end SceneScript
