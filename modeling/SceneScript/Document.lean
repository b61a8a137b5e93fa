import SceneScript.Json.Decode

/-!
# Workspace documents

The editor stores a program as nested JSON: the blocks in the inputs of a block and the block below
it stand inside the block itself. A document is that tree, with the shadow of a connection in place
of a block where no block is connected. Each block is read on its own, so a block that cannot be
read spoils only its place.

* `Document`, `Chain`: the variables and the chains of a document.
* `Document.ofText`: the document of a text.
-/

namespace SceneScript

/-- What a block says about itself. -/
structure Header where
  kind : String
  id : Option String
  enabled : Bool
  fields : Dict Json

/-- What is connected somewhere: a block with everything that hangs in its inputs and below it. -/
inductive Chain where
  /-- Nothing is connected. -/
  | none
  /-- What is connected is no block. -/
  | unreadable (cause : Json.Cause)
  | block (header : Header) (inputs : List (String × Chain)) (next : Chain)

/-- Something is connected. -/
def Chain.isSome : Chain → Bool
  | none => false
  | _ => true

/-- A variable as a document declares it. -/
structure Declaration where
  id : String := ""
  name : String := ""
  /-- The spelling of its tag. -/
  type : String := ""

/-- A program as the editor stores it. -/
structure Document where
  declarations : List Declaration := []
  /-- The top-level blocks in stored order. -/
  chains : List Chain := []

namespace Document

open Json

/-! ## Blocks -/

/-- What is plugged in at a connection. -/
structure Connection where
  block : Option Draft := none
  shadow : Option Draft := none

/-- A real block wins over its shadow. -/
def Connection.target (c : Connection) : Option Draft := c.block <|> c.shadow

/-- How a connection is stored. -/
def connectionRecord : Record Connection where
  name := "RawConnection"
  fields := ["block", "shadow"]
  required := []
  set := fun _ name draft c => do
    let plugged ← Draft.optional Draft.raw draft
    return if name = "block" then { c with block := plugged } else { c with shadow := plugged }

/-- What is plugged in at a connection that is stored as a draft. -/
def plugged (room : Nat) (draft : Draft) : Except Cause (Option Draft) :=
  (connectionRecord.decode {} room draft).map Connection.target

/-- A block whose connections are not read yet. -/
structure OpenBlock where
  header : Header := { kind := "", id := none, enabled := true, fields := .empty }
  inputs : Dict (Option Draft) := .empty
  next : Option Draft := none

/-- How a block is stored. -/
def blockRecord : Record OpenBlock where
  name := "RawBlock"
  fields := ["type", "id", "enabled", "fields", "inputs", "next"]
  required := ["type"]
  set := fun room name draft b =>
    match name with
    | "type" => do return { b with header.kind := ← draft.asString }
    | "id" => do return { b with header.id := ← draft.optional Draft.asString }
    | "enabled" => do return { b with header.enabled := ← draft.asBool }
    | "fields" => do return { b with header.fields := ← draft.asDict room Draft.unfolded }
    | "inputs" => do return { b with inputs := ← draft.asDict room plugged }
    | _ => do return { b with next := (← draft.optional (plugged room)).join }

end Document

namespace Json

mutual

/-- How many values and members a draft has. -/
def Draft.size : Draft → Nat
  | .list items => items.size + 1
  | .object members => members.size + 1
  | _ => 1

/-- How many values there are in the items of a list. -/
def Draft.Items.size : Draft.Items → Nat
  | .item head rest => head.size + rest.size
  | _ => 0

/-- How many values there are in the members of an object. -/
def Draft.Members.size : Draft.Members → Nat
  | .member _ value rest => value.size + rest.size
  | _ => 0

end

end Json

namespace Chain

open Document

/-- What a draft connects. A connected draft stands inside the draft of its block, so the size of a
draft bounds how deep its connections go. -/
def ofDraftWithin : Nat → Json.Draft → Chain
  | 0, _ => none
  | fuel + 1, draft =>
    match blockRecord.decode {} Json.maxDepth draft with
    | .error cause => unreadable cause
    | .ok b =>
      let connect : Option Json.Draft → Chain
        | .none => none
        | .some target => ofDraftWithin fuel target
      block b.header (b.inputs.entries.map fun input => (input.1, connect input.2)) (connect b.next)

/-- What a draft connects. -/
def ofDraft (draft : Json.Draft) : Chain := ofDraftWithin draft.size draft

end Chain

namespace Document

open Json

/-! ## Documents -/

/-- How a variable is stored. -/
def variableRecord : Record Declaration where
  name := "RawVariable"
  fields := ["id", "name", "type"]
  required := ["id", "name"]
  set := fun _ name draft v =>
    match name with
    | "id" => do return { v with id := ← draft.asString }
    | "name" => do return { v with name := ← draft.asString }
    | _ => do return { v with type := ← draft.asString }

/-- How the blocks of a document are stored; the version is read and not used. -/
def blocksRecord : Record (List Draft) where
  name := "RawBlocks"
  fields := ["languageVersion", "blocks"]
  required := []
  set := fun room name draft blocks =>
    match name with
    | "blocks" => draft.asList room fun _ => Draft.raw
    | _ => do
      let _version ← draft.asWord32
      return blocks

/-- How a document is stored. -/
def record : Record Document where
  name := "RawWorkspace"
  fields := ["blocks", "variables"]
  required := []
  set := fun room name draft d =>
    match name with
    | "blocks" => do
      let blocks ← draft.optional (blocksRecord.decode [] room)
      return { d with chains := (blocks.getD []).map Chain.ofDraft }
    | _ => do return { d with declarations := ← draft.asList room (variableRecord.decode {}) }

/-- The document of a text. -/
def ofText (text : String) : Except Cause Document :=
  decodeText (record.decode {} maxDepth) text

end Document

end SceneScript
