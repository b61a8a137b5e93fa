import SceneScript.Digest
import SceneScript.Kinds.Standard
import SceneScript.Linking
import SceneScript.Proposal
import SceneScript.SocketCheck

/-!
# Compiling

From the text of a workspace to its script, with the standard registry.

* `Compilation`: the script, if there is one, and the findings.
* `compile`: compiling a text.
* `check`: only the findings.
* `compileLog`, `checkLog`: the events on the way.
* `newBlockFields`: the initial field values of a block placed in the workspace.
-/

namespace SceneScript

/-- The outcome of compiling. -/
structure Compilation where
  script : Option String
  diagnostics : Diagnostics

namespace Compilation

/-- There is a script. -/
def success (c : Compilation) : Bool := c.script.isSome

/-- The digest of the script. -/
def hash (c : Compilation) : Option String := c.script.map Digest.hex

/-- The script, or else the findings. -/
def result (c : Compilation) : Except Diagnostics String :=
  match c.script with
  | some script => .ok script
  | none => .error c.diagnostics

end Compilation

/-- The shapes of the standard registry. -/
def standardCatalog : Catalog := Registry.standard.shape?

/-- The script of a linked workspace. Such a workspace is no bad graph. -/
def scriptOf (options : ScriptOptions) (w : Workspace) : String :=
  match ({ workspace := w, registry := .standard, options } : Program).script with
  | .ok script => script
  | .error _ => ""

/-- The events on the way to the script of a linked workspace. -/
def scriptLog (options : ScriptOptions) (w : Workspace) : List Event :=
  ({ workspace := w, registry := .standard, options } : Program).scriptLogged.2

/-- The findings about a linked workspace. -/
def findings (w : Workspace) : Diagnostics :=
  match w.check .standard with
  | .ok diagnostics => diagnostics
  | .error _ => .empty

/-- Compiles the text of a workspace. -/
def compile (options : Options) (text : String) : Compilation :=
  let linked := parse standardCatalog text
  match linked.workspace with
  | none => ⟨none, linked.diagnostics⟩
  | some w =>
    ⟨some (scriptOf options.script w),
      if options.validate then linked.diagnostics ++ findings w else linked.diagnostics⟩

/-- All findings about the text of a workspace: its errors, or else what checking finds. -/
def check (text : String) : Diagnostics :=
  let linked := parse standardCatalog text
  match linked.workspace with
  | none => linked.diagnostics
  | some w => linked.diagnostics ++ findings w

/-- The events while a text is checked. -/
def checkLog (text : String) : List Event := parseLog standardCatalog text

/-- The events while a text is compiled: those of linking, and then those of generating. -/
def compileLog (options : Options) (text : String) : List Event :=
  parseLog standardCatalog text ++
    match (parse standardCatalog text).workspace with
    | none => []
    | some w => scriptLog options.script w

/-- Why there are no initial field values. -/
inductive NoProposals where
  | errors (count : Nat)
  | unknownKind (kind : String)
deriving DecidableEq

/-- The wording of a reason. -/
def NoProposals.message : NoProposals → String
  | errors count => "workspace has " ++ toString count ++ " error(s)"
  | unknownKind kind => "unknown block kind: " ++ kind

/-- The initial field values of a block of a kind, placed in the workspace of a text. -/
def newBlockFieldsWith (registry : Registry) (text kind : String) :
    Except NoProposals (Dict Proposal) :=
  let linked := parse registry.shape? text
  match linked.workspace with
  | none => .error (.errors linked.diagnostics.totalErrors)
  | some w =>
    match proposals? registry w kind with
    | none => .error (.unknownKind kind)
    | some proposals => .ok proposals

/-- The initial field values of a block of a standard kind. -/
def newBlockFields (text kind : String) : Except NoProposals (Dict Proposal) :=
  newBlockFieldsWith .standard text kind

end SceneScript
