import SceneScript.Kinds.Standard
import SceneScript.Proofs.Findings
import SceneScript.Proofs.Parsed
import SceneScript.Toolbox

/-!
# What definitions tell about shapes

The editor draws blocks from definitions, and documents are linked by shapes. A definition leaves
out some of its shape: which variable an unset field stands for, the category, and a default that
is no JSON number. What linking and checking look at is the outline of a shape, and the outline can
be read back from the definition. So two registries with the same definitions treat every document
alike, whatever code they make of it.

* `Shape.outline`: a shape without what only the editor shows.
* **`parse_outlined`**, **`Workspace.check_eq_of_outlined_eq`**: linking and checking see outlines.
* `Toolbox.readDefinition?`: the outline of a kind, read from its definition.
* `Json.Same`: two equal JSON values.
* **`parse_eq_of_definitions_same`**: registries with the same definitions treat documents alike.
-/

namespace SceneScript

/-! ## Outlines -/

/-- A field without what it holds at first. -/
def FieldKind.outline : FieldKind → FieldKind
  | .text _ => .text ""
  | .number _ => .number .zero
  | .colour _ => .colour ""
  | .checkbox _ => .checkbox false
  | .dropdown _ => .dropdown []
  | .reference tag _ => .reference tag (.first "")

/-- An argument without what it holds at first. -/
def Arg.outline : Arg → Arg
  | .field name kind => .field name kind.outline
  | .input name takes => .input name takes

/-- A shape without what only the editor shows. -/
def Shape.outline (s : Shape) : Shape where
  kind := s.kind
  message := ""
  args := s.args.map Arg.outline
  output := s.output
  category := .scene
  tooltip := ""
  inputsInline := false

namespace Shape

variable (s : Shape)

theorem fields_outline :
    s.outline.fields = s.fields.map fun field => (field.1, field.2.outline) := by
  unfold fields outline
  rw [List.filterMap_map, List.map_filterMap]
  congr 1
  funext arg
  cases arg <;> rfl

theorem inputs_outline : s.outline.inputs = s.inputs := by
  unfold inputs outline
  rw [List.filterMap_map]
  congr 1
  funext arg
  cases arg <;> rfl

theorem field?_outline (name : String) :
    s.outline.field? name = (s.field? name).map FieldKind.outline := by
  unfold field?
  rw [fields_outline, Dict.lookup_map_snd]

theorem input?_outline (name : String) : s.outline.input? name = s.input? name := by
  rw [input?, inputs_outline, input?]

theorem accepted?_outline (input : String) : s.outline.accepted? input = s.accepted? input := by
  rw [accepted?, input?_outline, accepted?]

end Shape

theorem FieldKind.read?_outline (kind : FieldKind) (json : Json) :
    kind.outline.read? json = kind.read? json := by
  cases kind <;> cases json <;> rfl

theorem Shape.readFields_outline (s : Shape) (fields : Dict Json) :
    s.outline.readFields fields = s.readFields fields := by
  unfold readFields
  congr 2
  funext ⟨name, json⟩
  simp only [field?_outline]
  cases s.field? name with
  | none => rfl
  | some kind => simp [FieldKind.read?_outline]

/-! ## Linking -/

namespace Linking

theorem newBlock_outline (shape : Shape) (id : String) (header : Header) :
    newBlock shape.outline id header = newBlock shape id header := by
  unfold newBlock Shape.emptyValues Shape.emptyStatements
  rw [Shape.readFields_outline, Shape.inputs_outline]
  rfl

theorem place_outline (shape : Shape) (header : Header) (asStatement : Bool) (nesting : Nat) :
    place shape.outline header asStatement nesting = place shape header asStatement nesting := by
  unfold place
  simp only [newBlock_outline]
  rfl

/-- The outlines of the shapes of a catalog. -/
def outlined (catalog : Catalog) : Catalog := fun kind => (catalog kind).map Shape.outline

variable (catalog : Catalog)

mutual

theorem linkChain_outlined : ∀ (chain : Chain) (nesting : Nat) (parent previous : Option Ref),
    linkChain (outlined catalog) nesting parent previous chain =
      linkChain catalog nesting parent previous chain
  | .none, _, _, _ => rfl
  | .unreadable _, _, _, _ => rfl
  | .block header inputs next, nesting, parent, previous => by
    rw [linkChain, linkChain, outlined]
    cases catalog header.kind with
    | none => rfl
    | some shape =>
      simp only [Option.map_some, place_outline]
      refine bind_congr fun placed => ?_
      cases placed with
      | none => rfl
      | some placed =>
        simp only [linkInputs_outlined inputs, linkChain_outlined next]

theorem linkValue_outlined : ∀ (chain : Chain) (nesting : Nat) (parent : Option Ref),
    linkValue (outlined catalog) nesting parent chain = linkValue catalog nesting parent chain
  | .none, _, _ => rfl
  | .unreadable _, _, _ => rfl
  | .block header inputs next, nesting, parent => by
    rw [linkValue, linkValue, outlined]
    cases catalog header.kind with
    | none => rfl
    | some shape =>
      have hstatement : shape.outline.isStatement = shape.isStatement := rfl
      simp only [Option.map_some, hstatement, place_outline, linkInputs_outlined inputs]

theorem linkInputs_outlined : ∀ (inputs : List (String × Chain)) (nesting : Nat) (shape : Shape)
    (r : Ref) (id : String), linkInputs (outlined catalog) nesting shape.outline r id inputs =
      linkInputs catalog nesting shape r id inputs
  | [], _, _, _, _ => rfl
  | (name, chain) :: rest, nesting, shape, r, id => by
    have hkind : shape.outline.kind = shape.kind := rfl
    rw [linkInputs, linkInputs, Shape.input?_outline]
    simp only [hkind, linkInputs_outlined rest, linkValue_outlined chain, linkChain_outlined chain]

end

theorem linkTop_outlined (chain : Chain) :
    linkTop (outlined catalog) chain = linkTop catalog chain := by
  have hexpression : isExpression (outlined catalog) chain = isExpression catalog chain := by
    cases chain with
    | none => rfl
    | unreadable cause => rfl
    | block header inputs next =>
      unfold isExpression outlined
      dsimp only
      cases catalog header.kind <;> rfl
  rw [linkTop, linkTop, hexpression, linkValue_outlined, linkChain_outlined]

theorem linkDocument_outlined (document : Document) :
    linkDocument (outlined catalog) document = linkDocument catalog document := by
  unfold linkDocument
  have htop : linkTop (outlined catalog) = linkTop catalog := funext (linkTop_outlined catalog)
  rw [htop]

end Linking

/-- **A document is linked by outlines alone.** -/
theorem parse_outlined (catalog : Catalog) (text : String) :
    parse (Linking.outlined catalog) text = parse catalog text := by
  unfold parse link
  simp only [Linking.linkDocument_outlined]

/-! ## Checking -/

namespace Workspace

variable {w : Workspace}

theorem checkField?_outline (shape : Shape) (b : Block) (field : String) (value : FieldValue) :
    checkField? w shape.outline b field value = checkField? w shape b field value := by
  unfold checkField?
  rw [Shape.field?_outline]
  cases value with
  | reference id =>
    cases shape.field? field with
    | none => rfl
    | some kind => cases kind <;> rfl
  | _ => rfl

theorem checkInputs_outline (shape : Shape) (b : Block) (inputs : List (String × Option Ref)) :
    w.checkInputs shape.outline b inputs = w.checkInputs shape b inputs := by
  have hinput : checkInput? shape.outline b = checkInput? shape b := by
    funext input child
    rw [checkInput?, Shape.accepted?_outline, checkInput?]
  induction inputs with
  | nil => rfl
  | cons entry rest ih =>
    obtain ⟨input, held⟩ := entry
    cases held with
    | none => exact ih
    | some r => rw [checkInputs, checkInputs, ih, hinput]

/-- **A workspace is checked by outlines alone.** -/
theorem check_eq_of_outlined_eq {registry registry' : Registry}
    (h : Linking.outlined registry.shape? = Linking.outlined registry'.shape?) :
    w.check registry = w.check registry' := by
  have hblock : w.checkBlock registry = w.checkBlock registry' := by
    funext b
    have hshape : (registry.shape? b.kind).map Shape.outline =
        (registry'.shape? b.kind).map Shape.outline := congrFun h b.kind
    unfold checkBlock
    cases hs : registry.shape? b.kind with
    | none =>
      cases hs' : registry'.shape? b.kind with
      | none => rfl
      | some shape' => simp [hs, hs'] at hshape
    | some shape =>
      cases hs' : registry'.shape? b.kind with
      | none => simp [hs, hs'] at hshape
      | some shape' =>
        -- Both shapes are checked as their common outline is.
        have houtline : shape.outline = shape'.outline := by simpa [hs, hs'] using hshape
        simp only [← checkInputs_outline shape, ← checkInputs_outline shape',
          ← checkField?_outline shape, ← checkField?_outline shape', houtline]
  unfold check
  rw [hblock]

end Workspace

/-! ## Reading definitions -/

namespace Json

theorem member?_sortedObject (members : List (String × Json)) (name : String) :
    (sortedObject members).member? name = members.reverse.lookup name := by
  have hlookup : (sortedObject members).member? name =
      (Dict.ofList members).entries.reverse.lookup name := rfl
  rw [hlookup, Dict.lookup_reverse_of_nodup name (Dict.nodup_keys _), ← Dict.get?_ofList]
  rfl

/-- What is read from the items of a list. -/
def readList? {α : Type} (read : Json → Option α) (json : Json) : Option (List α) :=
  json.list?.bind (·.mapM read)

theorem readList?_list_map {α β : Type} {read : Json → Option β} {f : α → Json} {g : α → β}
    (h : ∀ a, read (f a) = some (g a)) (l : List α) :
    readList? read (.list (l.map f)) = some (l.map g) := by
  have hread : (l.map f).mapM read = some (l.map g) := by
    rw [List.mapM_map]
    exact Workspace.mapM_eq_pure_map fun a _ => h a
  exact hread

end Json

/-- The tag of a JSON value. -/
def SocketTag.ofJson? (json : Json) : Option SocketTag := json.string?.bind ofName?

/-- The accepted tags of a JSON value. -/
def TagSet.ofJson? (json : Json) : Option TagSet :=
  if json.isNull then some .any else (json.readList? SocketTag.ofJson?).map .only

namespace Toolbox

/-- What an input takes, by the type of its definition. -/
def readInput? (type : String) (json : Json) : Option Input :=
  match type with
  | "input_value" => ((json.member? "check").bind TagSet.ofJson?).map .value
  | "input_statement" => some .statements
  | _ => none

/-- The outline of a field, by the type of its definition. -/
def readKind? (type : String) (json : Json) : Option FieldKind :=
  match type with
  | "field_input" => some (.text "")
  | "field_number" => some (.number .zero)
  | "field_colour" => some (.colour "")
  | "field_checkbox" => some (.checkbox false)
  | "field_dropdown" => some (.dropdown [])
  | "field_variable" =>
    ((json.member? "defaultType").bind SocketTag.ofJson?).map (.reference · (.first ""))
  | _ => none

/-- The outline of an argument, from its definition. -/
def readArgument? (json : Json) : Option Arg := do
  let name ← (json.member? "name").bind Json.string?
  let type ← (json.member? "type").bind Json.string?
  ((readInput? type json).map (.input name)).or ((readKind? type json).map (.field name))

/-- The outline of a kind of block, from its definition. -/
def readDefinition? (json : Json) : Option Shape := do
  let kind ← (json.member? "type").bind Json.string?
  let args ← (json.member? "args0").elim (some []) (Json.readList? readArgument?)
  return { kind, message := "", args, output := (json.member? "output").bind SocketTag.ofJson?
           category := .scene, tooltip := "", inputsInline := false }

end Toolbox

theorem SocketTag.ofJson?_toJson (tag : SocketTag) : ofJson? tag.toJson = some tag := by
  cases tag <;> decide

theorem TagSet.ofJson?_toJson (accepts : TagSet) : ofJson? accepts.toJson = some accepts := by
  cases accepts with
  | any => rfl
  | only tags =>
    have hread : (toJson (.only tags)).readList? SocketTag.ofJson? = some (tags.map id) :=
      Json.readList?_list_map SocketTag.ofJson?_toJson tags
    rw [ofJson?, hread, List.map_id]
    rfl

namespace Toolbox

theorem readArgument?_argument (arg : Arg) : readArgument? (argument arg) = some arg.outline := by
  cases arg with
  | field name kind =>
    cases kind <;>
      simp [readArgument?, readInput?, readKind?, argument, Json.member?_sortedObject,
        List.lookup_cons, Json.string?, Arg.outline, FieldKind.outline, SocketTag.ofJson?_toJson]
  | input name takes =>
    cases takes <;>
      simp [readArgument?, readInput?, argument, Json.member?_sortedObject, List.lookup_cons,
        Json.string?, Arg.outline, TagSet.ofJson?_toJson]

section Members

variable (shape : Shape)

theorem member?_definition_type :
    (definition shape).member? "type" = some (.string shape.kind) := by
  rw [definition, Json.member?_sortedObject]
  cases shape.args <;> cases shape.output <;> simp [List.lookup_cons]

theorem member?_definition_args0 : (definition shape).member? "args0" =
    if shape.args.isEmpty then none else some (.list (shape.args.map argument)) := by
  rw [definition, Json.member?_sortedObject]
  cases shape.args <;> cases shape.output <;> simp [List.lookup_cons]

theorem member?_definition_output :
    (definition shape).member? "output" = shape.output.map SocketTag.toJson := by
  rw [definition, Json.member?_sortedObject]
  cases shape.args <;> cases shape.output <;> simp [List.lookup_cons]

end Members

/-- **A definition tells the outline of its shape.** -/
theorem readDefinition?_definition (shape : Shape) :
    readDefinition? (definition shape) = some shape.outline := by
  have hargs : ((definition shape).member? "args0").elim (some []) (Json.readList? readArgument?) =
      some (shape.args.map Arg.outline) := by
    rw [member?_definition_args0]
    cases hempty : shape.args with
    | nil => rfl
    | cons arg rest => exact Json.readList?_list_map readArgument?_argument (arg :: rest)
  have houtput : ((definition shape).member? "output").bind SocketTag.ofJson? = shape.output := by
    rw [member?_definition_output]
    cases shape.output with
    | none => rfl
    | some tag => exact SocketTag.ofJson?_toJson tag
  rw [readDefinition?, hargs, houtput, member?_definition_type]
  rfl

end Toolbox

/-- The outline of a kind is the first one of that kind among the outlines of all definitions. -/
theorem Registry.outlined_shape? (registry : Registry) : Linking.outlined registry.shape? =
    fun kind => (registry.definitions.map fun d => d.shape.outline).find? (·.kind == kind) := by
  funext kind
  rw [List.find?_map, Linking.outlined, shape?, get?_eq_find?, Option.map_map]
  rfl

/-! ## Equal values -/

/-- The number, with zero without its sign. -/
def Json.Number.plain : Number → Number
  | .int value => .int value
  | .float value => .float (if value.pattern = 0 then .zero else value)

namespace Json

mutual

/-- The value with all zeros without their signs. -/
def plain : Json → Json
  | .null => .null
  | .bool value => .bool value
  | .number value => .number value.plain
  | .string text => .string text
  | .list items => .list (plainItems items)
  | .object members => .object (plainMembers members)

/-- The items of a list with all zeros without their signs. -/
def plainItems : List Json → List Json
  | [] => []
  | item :: rest => plain item :: plainItems rest

/-- The members of an object with all zeros without their signs. -/
def plainMembers : List (String × Json) → List (String × Json)
  | [] => []
  | (name, value) :: rest => (name, plain value) :: plainMembers rest

end

/-- Two values are equal as JSON values. Numbers are compared by value, so zero has no sign. -/
def Same (json json' : Json) : Prop := json.plain = json'.plain

theorem plainItems_eq (items : List Json) : plainItems items = items.map plain := by
  induction items with
  | nil => rfl
  | cons item rest ih => rw [plainItems, ih, List.map_cons]

theorem plainMembers_eq (members : List (String × Json)) :
    plainMembers members = members.map fun member => (member.1, member.2.plain) := by
  induction members with
  | nil => rfl
  | cons member rest ih => rw [plainMembers, ih, List.map_cons]

theorem string?_plain (json : Json) : json.plain.string? = json.string? := by
  cases json <;> rfl

theorem isNull_plain (json : Json) : json.plain.isNull = json.isNull := by
  cases json <;> rfl

theorem member?_plain (json : Json) (name : String) :
    json.plain.member? name = (json.member? name).map plain := by
  cases json with
  | object members =>
    rw [plain, member?, member?, plainMembers_eq, ← List.map_reverse, Dict.lookup_map_snd]
  | _ => rfl

variable {α : Type} {read : Json → Option α} (h : ∀ json, read (plain json) = read json)

include h

theorem readList?_plain (json : Json) : readList? read json.plain = readList? read json := by
  cases json with
  | list items =>
    have hread : read ∘ plain = read := funext h
    change (plainItems items).mapM read = items.mapM read
    rw [plainItems_eq, List.mapM_map, hread]
  | _ => rfl

theorem bind_member?_plain (json : Json) (name : String) :
    (json.plain.member? name).bind read = (json.member? name).bind read := by
  rw [member?_plain]
  cases json.member? name with
  | none => rfl
  | some value => exact h value

end Json

theorem SocketTag.ofJson?_plain (json : Json) : ofJson? json.plain = ofJson? json := by
  rw [ofJson?, Json.string?_plain, ofJson?]

theorem TagSet.ofJson?_plain (json : Json) : ofJson? json.plain = ofJson? json := by
  rw [ofJson?, Json.isNull_plain, Json.readList?_plain SocketTag.ofJson?_plain, ofJson?]

namespace Toolbox

theorem readArgument?_plain (json : Json) : readArgument? json.plain = readArgument? json := by
  have hinput : ∀ type, readInput? type json.plain = readInput? type json := by
    intro type
    unfold readInput?
    rw [Json.bind_member?_plain TagSet.ofJson?_plain]
  have hkind : ∀ type, readKind? type json.plain = readKind? type json := by
    intro type
    unfold readKind?
    rw [Json.bind_member?_plain SocketTag.ofJson?_plain]
  unfold readArgument?
  simp only [Json.bind_member?_plain Json.string?_plain, hinput, hkind]

theorem readDefinition?_plain (json : Json) :
    readDefinition? json.plain = readDefinition? json := by
  have hargs : (json.plain.member? "args0").elim (some []) (Json.readList? readArgument?) =
      (json.member? "args0").elim (some []) (Json.readList? readArgument?) := by
    rw [Json.member?_plain]
    cases json.member? "args0" with
    | none => rfl
    | some args => exact Json.readList?_plain readArgument?_plain args
  unfold readDefinition?
  rw [hargs, Json.bind_member?_plain Json.string?_plain,
    Json.bind_member?_plain SocketTag.ofJson?_plain]

/-- **Registries with the same definitions have the same outlines.** -/
theorem outlined_eq_of_same {registry registry' : Registry}
    (h : (definitions registry).Same (definitions registry')) :
    Linking.outlined registry.shape? = Linking.outlined registry'.shape? := by
  have hread : ∀ r : Registry, Json.readList? readDefinition? (definitions r).plain =
      some (r.definitions.map fun d => d.shape.outline) := by
    intro r
    rw [Json.readList?_plain readDefinition?_plain]
    exact Json.readList?_list_map (f := fun d : Definition => definition d.shape)
      (g := fun d => d.shape.outline) (fun d => readDefinition?_definition d.shape) r.definitions
  have hsame := congrArg (Json.readList? readDefinition?) h
  rw [hread, hread, Option.some.injEq] at hsame
  rw [Registry.outlined_shape?, Registry.outlined_shape?, hsame]

end Toolbox

/-- **Registries with the same definitions treat documents alike.** If the definitions that the
editor gets from two registries are equal JSON values, then every text has the same workspace and
the same findings with both, and checking the workspace finds the same with both. -/
theorem parse_eq_of_definitions_same (registry registry' : Registry)
    (h : (Toolbox.definitions registry).Same (Toolbox.definitions registry')) (text : String) :
    parse registry.shape? text = parse registry'.shape? text ∧
      ∀ w, (parse registry.shape? text).workspace = some w →
        ∃ findings, w.check registry = .ok findings ∧ w.check registry' = .ok findings := by
  have houtlined := Toolbox.outlined_eq_of_same h
  refine ⟨?_, fun w hw => ?_⟩
  · rw [← parse_outlined registry.shape?, houtlined, parse_outlined]
  · have hcheck := Workspace.check_eq registry (wellLinked_of_parse hw).holdsValues
    exact ⟨_, hcheck, (Workspace.check_eq_of_outlined_eq houtlined).symm.trans hcheck⟩

/-- The shape of a statement that creates a shape, but its field stands for the first shape. -/
def pickingShape : Shape :=
  let shape := Kinds.createShape.shape
  { shape with args := .field "VAR" (.reference .shape (.first "shape_1")) :: shape.args.tail }

/-- The shape of a number that starts at zero with a sign. -/
def signedShape : Shape :=
  { Kinds.mathNumber.shape with args := [.field "NUM" (.number Double.zero.neg)] }

/-- Statements that create a shape, and numbers. -/
def writingRegistry : Registry :=
  (Registry.empty.register Kinds.createShape).register Kinds.mathNumber

/-- The same kinds with other shapes and without code. -/
def silentRegistry : Registry :=
  (Registry.empty.register ⟨pickingShape, .statement .nothing, none⟩).register
    ⟨signedShape, .value .nothing, none⟩

/-- A statement with a number for its place, and a variable that is not declared. -/
def strayText : String :=
  "[[0, [[\"create_shape\", \"a\", true, \x7b\"VAR\": \"s\"\x7d, " ++
    "\x7b\"COORDS\": [[\"math_number\"]]\x7d]]]]"

theorem parse_eq_of_definitions_same_strayText :
    (Toolbox.definitions writingRegistry).Same (Toolbox.definitions silentRegistry) ∧
      writingRegistry.shape? "create_shape" ≠ silentRegistry.shape? "create_shape" ∧
      writingRegistry.shape? "math_number" ≠ silentRegistry.shape? "math_number" ∧
      ∃ w findings, parse writingRegistry.shape? strayText = parse silentRegistry.shape? strayText ∧
        (parse silentRegistry.shape? strayText).workspace = some w ∧
        w.check writingRegistry = .ok findings ∧ w.check silentRegistry = .ok findings ∧
        findings.warnings.map Diagnostic.code = [300, 301] := by
  have hsame :
      (Toolbox.definitions writingRegistry).Same (Toolbox.definitions silentRegistry) := rfl
  have hchars : strayText.toList = _ :=
    Json.toList_append_of String.toList_ofList String.toList_ofList
  have hparse : ((parse writingRegistry.shape? strayText).workspace.map fun w =>
      (w.check writingRegistry).toOption.map fun findings =>
        findings.warnings.map Diagnostic.code) = some (some [300, 301]) := by
    rw [parse, Document.ofText, Json.decodeText, Json.Draft.ofText_of_toList hchars]
    decide +kernel
  obtain ⟨w, hw, hcodes⟩ := Option.map_eq_some_iff.1 hparse
  obtain ⟨heq, hfindings⟩ :=
    parse_eq_of_definitions_same writingRegistry silentRegistry hsame strayText
  obtain ⟨findings, hcheck, hcheck'⟩ := hfindings w hw
  rw [hcheck] at hcodes
  exact ⟨hsame, by decide, by decide, w, findings, heq, heq ▸ hw, hcheck, hcheck',
    Option.some.inj hcodes⟩

end SceneScript
