import SceneScript.Compile
import SceneScript.Json.Print
import SceneScript.Toolbox

/-!
# Results in JSON

How results are handed to the editor and to other tools. The members of each object come in a fixed
order.
-/

namespace SceneScript

/-- The value of a field, with the kind of the field. -/
def FieldValue.toJson : FieldValue → Json
  | text value => .object [("kind", .string "text"), ("value", .string value)]
  | number value => .object [("kind", .string "number"), ("value", .ofDouble value)]
  | colour value => .object [("kind", .string "colour"), ("value", .string value)]
  | checkbox value => .object [("kind", .string "checkbox"), ("value", .bool value)]
  | dropdown value => .object [("kind", .string "dropdown"), ("value", .string value)]
  | reference id =>
    .object [("kind", .string "variable"), ("value", .object [("id", .string id)])]

/-- What is put into a field at first. -/
def Proposal.toJson : Proposal → Json
  | literal value => .object [("default", .string "literal"), ("value", value.toJson)]
  | existing v =>
    .object [("default", .string "existing"), ("id", .string v.id), ("name", .string v.name)]
  | create name tag =>
    .object [("default", .string "create"), ("name", .string name), ("tag", tag.toJson)]

/-- The initial field values of a block. -/
def proposalsJson (proposals : Dict Proposal) : Json :=
  .object (proposals.entries.map fun entry => (entry.1, entry.2.toJson))

/-- A finding. -/
def Diagnostic.toJson (d : Diagnostic) : Json :=
  .object <|
    [("code", .nat d.code), ("severity", .string d.severity.name),
      ("category", .string d.category.name), ("message", .string d.message)] ++
    (d.block.toList.map fun id => ("block_id", .string id)) ++
    (d.suggestion.toList.map fun text => ("suggestion", .string text))

/-- A collection of findings. -/
def Diagnostics.toJson (c : Diagnostics) : Json :=
  .object
    [("errors", .list (c.errors.map Diagnostic.toJson)),
      ("warnings", .list (c.warnings.map Diagnostic.toJson)),
      ("total_errors", .nat c.totalErrors), ("total_warnings", .nat c.totalWarnings)]

/-- The outcome of compiling. -/
def Compilation.toJson (c : Compilation) : Json :=
  .object
    [("success", .bool c.success), ("script", .optString c.script),
      ("script_hash", .optString c.hash), ("errors", c.diagnostics.toJson)]

end SceneScript
