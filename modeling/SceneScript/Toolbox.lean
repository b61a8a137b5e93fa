import SceneScript.Json.Basic
import SceneScript.Registry

/-!
# What the editor is told

The editor draws blocks from definitions in JSON, and offers them in a toolbox sorted by category.
Both are made from a registry.

* `Toolbox.definition`, `Toolbox.definitions`: one kind, all kinds.
* `Toolbox.contents`: the toolbox.
-/

namespace SceneScript

/-- A tag as a JSON value. -/
def SocketTag.toJson (tag : SocketTag) : Json := .string tag.name

/-- The accepted tags as a JSON value; `null` if all are. -/
def TagSet.toJson : TagSet → Json
  | .any => .null
  | .only tags => .list (tags.map SocketTag.toJson)

namespace Toolbox

/-- The definition of an argument. -/
def argument : Arg → Json
  | .field name kind =>
    .sortedObject <| ("name", .string name) ::
      match kind with
      | .text initial => [("type", .string "field_input"), ("text", .string initial)]
      | .number initial => [("type", .string "field_number"), ("value", .ofDouble initial)]
      | .colour initial => [("type", .string "field_colour"), ("colour", .string initial)]
      | .checkbox initial => [("type", .string "field_checkbox"), ("checked", .bool initial)]
      | .dropdown options =>
        [("type", .string "field_dropdown"),
          ("options", .list (options.map fun option =>
            .list [.string option.1, .string option.2]))]
      | .reference tag initial =>
        let name :=
          match initial with
          | .first fallback => fallback
          | .fresh stem => stem ++ "_1"
        [("type", .string "field_variable"), ("variable", .string name),
          ("variableTypes", .list [tag.toJson]), ("defaultType", tag.toJson)]
  | .input name (.value accepts) =>
    .sortedObject
      [("type", .string "input_value"), ("name", .string name), ("check", accepts.toJson)]
  | .input name .statements =>
    .sortedObject [("type", .string "input_statement"), ("name", .string name)]

/-- The definition of a kind of block. -/
def definition (shape : Shape) : Json :=
  .sortedObject <|
    [("type", .string shape.kind), ("message0", .string shape.message)] ++
    (if shape.args.isEmpty then [] else [("args0", .list (shape.args.map argument))]) ++
    (match shape.output with
      | some tag => [("output", tag.toJson)]
      | none => [("previousStatement", .null), ("nextStatement", .null)]) ++
    [("inputsInline", .bool shape.inputsInline), ("colour", .nat shape.category.hue),
      ("tooltip", .string shape.tooltip)]

/-- The definitions of all kinds, in the order of their registration. -/
def definitions (registry : Registry) : Json :=
  .list (registry.definitions.map fun d => definition d.shape)

/-- The kinds of a category, in the order of their registration. -/
def kindsOf (registry : Registry) (category : Category) : List String :=
  (registry.definitions.filter (·.shape.category == category)).map Definition.kind

/-- A drawer of the toolbox; an empty one is left out. -/
def drawer? (registry : Registry) (category : Category) : Option Json :=
  match kindsOf registry category with
  | [] => none
  | kinds =>
    some <| .sortedObject
      [("kind", .string "category"), ("name", .string category.name),
        ("colour", .string (toString category.hue)),
        ("contents", .list (kinds.map fun kind =>
          .sortedObject [("kind", .string "block"), ("type", .string kind)]))]

/-- The toolbox. -/
def contents (registry : Registry) : Json :=
  .sortedObject
    [("kind", .string "categoryToolbox"),
      ("contents", .list (Category.all.filterMap (drawer? registry)))]

end Toolbox

end SceneScript
