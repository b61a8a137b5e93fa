import SceneScript.Namespace
import SceneScript.Registry

/-!
# Initial field values

What the editor puts into the fields of a block that is placed in a workspace: the literal of the
shape, the first variable of the right tag, or a new variable with a free name.

* `Proposal`: what is put into a field.
* `proposals?`: what is put into the fields of a kind.
-/

namespace SceneScript

/-- What is put into a field at first. -/
inductive Proposal where
  | literal (value : FieldValue)
  /-- A declared variable is selected. -/
  | existing (declared : Variable)
  /-- A variable is created. -/
  | create (name : String) (tag : SocketTag)
deriving DecidableEq, Inhabited

/-- What is put into a field of a kind. -/
def FieldKind.proposal? (names : Namespace) : FieldKind → Option Proposal
  | .reference tag (.first fallback) =>
    match names.firstOfTag? tag with
    | some v => some (.existing v)
    | none => some (.create fallback tag)
  | .reference tag (.fresh stem) => some (.create (names.uniqueName stem) tag)
  | kind => kind.default?.map .literal

/-- What is put into the fields of a new block, by the names of the fields, if its kind is known. -/
def proposals? (registry : Registry) (w : Workspace) (kind : String) : Option (Dict Proposal) :=
  (registry.shape? kind).map fun shape =>
    let names := Namespace.ofVariables w.declared ""
    .ofList <| shape.fields.filterMap fun field =>
      (field.2.proposal? names).map fun proposal => (field.1, proposal)

end SceneScript
