import SceneScript.Generator
import SceneScript.Problem

/-!
# Checking sockets and variables

A workspace that links may still put values where they are not accepted, or refer to variables that
are not declared or have another tag. These are findings, not errors: a script is generated all the
same.

* `checkInput?`, `checkField?`: the finding about one input, one field.
* `Workspace.check`: all findings about a workspace.
-/

namespace SceneScript

/-- The finding about a block in an input. -/
def checkInput? (shape : Shape) (b : Block) (input : String) (child : Block) : Option Problem :=
  match shape.accepted? input, child.output with
  | some accepted, some tag =>
    if accepted.accepts tag then none else some (.unacceptedTag b.id b.kind input tag)
  | _, _ => none

/-- The finding about a field. -/
def checkField? (w : Workspace) (shape : Shape) (b : Block) (field : String) :
    FieldValue → Option Problem
  | .reference id =>
    match shape.field? field with
    | some (.reference tag _) =>
      match w.declared? id with
      | none => some (.undeclaredVariable b.id field id)
      | some declared =>
        if declared.tag = tag then none else some (.wrongVariable b.id field tag declared)
    | _ => none
  | _ => none

namespace Workspace

/-- The findings about the inputs of a block. -/
def checkInputs (w : Workspace) (shape : Shape) (b : Block) :
    List (String × Option Ref) → Except BadGraph (List Problem)
  | [] => .ok []
  | (_, none) :: rest => w.checkInputs shape b rest
  | (input, some r) :: rest =>
    match w.block? r with
    | none => .error (.dangling r)
    | some child => do
      let problems ← w.checkInputs shape b rest
      return (checkInput? shape b input child).toList ++ problems

/-- The findings about a block: those about its inputs, then those about its fields. -/
def checkBlock (w : Workspace) (registry : Registry) (b : Block) :
    Except BadGraph (List Problem) :=
  match registry.shape? b.kind with
  | none => .ok []
  | some shape => do
    let inputs ← w.checkInputs shape b b.values.entries
    let fields := b.fields.entries.filterMap fun field => checkField? w shape b field.1 field.2
    return inputs ++ fields

/-- All findings about a workspace, in the order of its blocks. -/
def check (w : Workspace) (registry : Registry) : Except BadGraph Diagnostics := do
  let problems ← w.blocks.toList.mapM (w.checkBlock registry)
  return Diagnostics.empty.pushAll (problems.flatten.map Problem.diagnostic)

end Workspace

end SceneScript
