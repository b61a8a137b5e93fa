import SceneScript.Json.Draft

/-!
# Taking values from drafts

* `Draft.skim`: passing over a value, which only asks that it is JSON.
* `Draft.value`: the value of a draft.
* `Json.ofText`, `Draft.unfolded`: the values of a text and of a draft in which objects can embed
  the text of a value.
* `Draft.asString`, `Draft.asBool`, `Draft.asList`, `Draft.asDict`: values of one form.
* `Record`, `Record.decode`: structures with named fields, given as an object or as the list of
  their fields.

Lists and objects may stand inside each other only so deep. `room` counts how many more of them may
be entered; passing over a value takes no room.
-/

namespace SceneScript.Json

/-- How many lists and objects may stand inside each other. -/
def maxDepth : Nat := 127

namespace Draft

/-! ## Passing over -/

mutual

/-- Passes over a value. -/
def skim : Draft → Except Cause Unit
  | .null | .bool _ | .number _ => .ok ()
  | .string spelling => spelling.skim
  | .list items => items.skim
  | .object members => members.skim
  | .broken fault => .error fault.skimming

/-- Passes over the items of a list. -/
def Items.skim : Items → Except Cause Unit
  | .closed => .ok ()
  | .cut fault => .error fault.skimming
  | .item head rest => do
    head.skim
    rest.skim

/-- Passes over the members of an object. -/
def Members.skim : Members → Except Cause Unit
  | .closed => .ok ()
  | .cut fault => .error fault.skimming
  | .member key value rest => do
    key.skim
    value.skim
    rest.skim

end

/-! ## Strings -/

/-- The complaint about a draft that is not of the expected form. -/
def mismatch (expected : String) : Draft → Cause
  | .null => .wrongType .null expected
  | .bool b => .wrongType (.bool b) expected
  | .number numeral =>
    match numeral.value with
    | .ok n => .wrongType (.number n) expected
    | .error cause => cause
  | .string spelling =>
    match spelling.text with
    | .ok text => .wrongType (.string text) expected
    | .error cause => cause
  | .list _ => .wrongType .list expected
  | .object _ => .wrongType .object expected
  | .broken fault => fault.reading

/-- A string where something is expected that is written as one. -/
def asText (expected : String) : Draft → Except Cause String
  | .string spelling => spelling.text
  | draft => .error (draft.mismatch expected)

/-! ## Whole values -/

/-- The room inside a list or an object. -/
def enter : Nat → Except Cause Nat
  | 0 => .error .tooDeep
  | room + 1 => .ok room

/-- The name that the first member of an object has if the object embeds the text of a value. -/
def embedName : String := "$serde_json::private::RawValue"

/-- Nothing follows the member of an object that embeds a text. -/
def Members.ending : Members → Except Cause Unit
  | .closed => .ok ()
  | .cut .endInObject => .error .endInObject
  | .cut .expectedObjectComma => .error .trailingCharacters
  | .cut _ | .member _ _ _ => .error .trailingComma

mutual

/-- The value of a draft. Objects that embed a text have the value that `embed` takes from it; if
there is no `embed`, they are like all others. -/
def value (embed : Option (String → Except Cause Json)) (room : Nat) : Draft → Except Cause Json
  | .null => .ok .null
  | .bool b => .ok (.bool b)
  | .number numeral => numeral.value.map .number
  | .string spelling => spelling.text.map .string
  | .list items => do
    let room ← enter room
    return .list (← items.values embed room)
  | .object members => do
    let room ← enter room
    members.value embed room
  | .broken fault => .error fault.reading

/-- The values of the items of a list. -/
def Items.values (embed : Option (String → Except Cause Json)) (room : Nat) :
    Items → Except Cause (List Json)
  | .closed => .ok []
  | .cut fault => .error fault.reading
  | .item head rest => do
    let v ← head.value embed room
    return v :: (← rest.values embed room)

/-- The value of an object with these members. -/
def Members.value (embed : Option (String → Except Cause Json)) (room : Nat) :
    Members → Except Cause Json
  | .closed => .ok (.object [])
  | .cut fault => .error fault.reading
  | .member key value rest => do
    let name ← key.text
    match if name = embedName then embed else none with
    | some embed =>
      let v ← embed (← value.asText "raw value")
      rest.ending
      return v
    | none =>
      let v ← value.value embed room
      return .object ((name, v) :: (← rest.values embed room))

/-- The names and values of the members of an object. -/
def Members.values (embed : Option (String → Except Cause Json)) (room : Nat) :
    Members → Except Cause (List (String × Json))
  | .closed => .ok []
  | .cut fault => .error fault.reading
  | .member key value rest => do
    let name ← key.text
    let v ← value.value embed room
    return (name, v) :: (← rest.values embed room)

end

/-! ## Values of one form -/

/-- A string. -/
def asString (draft : Draft) : Except Cause String := draft.asText "a string"

/-- A truth value. -/
def asBool : Draft → Except Cause Bool
  | .bool b => .ok b
  | draft => .error (draft.mismatch "a boolean")

/-- A natural number of 32 bits. -/
def asWord32 : Draft → Except Cause Nat
  | .number numeral => do
    match ← numeral.value with
    | .int (.ofNat n) =>
      if n < Nat.pow 2 32 then return n else .error (.wrongValue (.number (.int n)) "u32")
    | .int n => .error (.wrongValue (.number (.int n)) "u32")
    | .float x => .error (.wrongType (.number (.float x)) "u32")
  | draft => .error (draft.mismatch "u32")

/-- Nothing is spelled `null`. -/
def optional {α : Type} (read : Draft → Except Cause α) : Draft → Except Cause (Option α)
  | .null => .ok none
  | draft => (read draft).map some

/-- A value that is passed over and kept. -/
def raw (draft : Draft) : Except Cause Draft :=
  draft.skim.map fun _ => draft

/-- The items of a list, each read by `read`. -/
def Items.mapM {α : Type} (read : Draft → Except Cause α) : Items → Except Cause (List α)
  | .closed => .ok []
  | .cut fault => .error fault.reading
  | .item head rest => do
    let a ← read head
    return a :: (← rest.mapM read)

/-- A list whose items are read by `read`, given the room inside the list. -/
def asList {α : Type} (room : Nat) (read : Nat → Draft → Except Cause α) :
    Draft → Except Cause (List α)
  | .list items => do
    let room ← enter room
    items.mapM (read room)
  | draft => .error (draft.mismatch "a sequence")

/-- The members of an object in the order in which they are written, each read by `read`. -/
def Members.mapM {α : Type} (read : Draft → Except Cause α) :
    Members → Except Cause (List (String × α))
  | .closed => .ok []
  | .cut fault => .error fault.reading
  | .member key value rest => do
    let name ← key.text
    let a ← read value
    return (name, a) :: (← rest.mapM read)

/-- An object read as a dictionary; of two members of one name the later one counts. -/
def asDict {α : Type} (room : Nat) (read : Nat → Draft → Except Cause α) :
    Draft → Except Cause (Dict α)
  | .object members => do
    let room ← enter room
    return .ofList (← members.mapM (read room))
  | draft => .error (draft.mismatch "a map")

end Draft

/-! ## Structures -/

/-- A structure with named fields. -/
structure Record (α : Type) where
  name : String
  /-- The names of the fields, in the order in which a list gives them. -/
  fields : List String
  /-- The fields that have to be given. -/
  required : List String
  /-- Sets one field from a draft, given the room inside the structure. -/
  set : Nat → String → Draft → α → Except Cause α

namespace Record

variable {α : Type}

/-- Sets the fields given by the members of an object; `seen` are the fields set so far. Members
that are no fields are passed over. -/
def setMembers (record : Record α) (room : Nat) (seen : List String) (a : α) :
    Draft.Members → Except Cause (List String × α)
  | .closed => .ok (seen, a)
  | .cut fault => .error fault.reading
  | .member key value rest => do
    let name ← key.text
    if record.fields.contains name then
      if seen.contains name then .error (.duplicateField name)
      else
        let a ← record.set room name value a
        record.setMembers room (name :: seen) a rest
    else
      value.skim
      record.setMembers room seen a rest

/-- What follows the last field of a structure that is given as a list. -/
def endOfFields : Draft.Items → Except Cause Unit
  | .closed => .ok ()
  | .cut .endInList => .error .endInList
  | .cut .listComma => .error .trailingComma
  | .cut _ | .item _ _ => .error .trailingCharacters

/-- Sets fields from the items of a list, from left to right. Fields that are left over keep what
they have, unless they have to be given. -/
def setItems (record : Record α) (room : Nat) (a : α) :
    List String → Draft.Items → Except Cause α
  | [], items => (endOfFields items).map fun _ => a
  | _ :: _, .cut fault => .error fault.reading
  | name :: fields, .item head rest => do
    let a ← record.set room name head a
    record.setItems room a fields rest
  | name :: fields, .closed =>
    match (name :: fields).find? record.required.contains with
    | none => .ok a
    | some missing =>
      .error (.wrongLength (record.fields.idxOf missing)
        ("struct " ++ record.name ++ " with " ++ toString record.fields.length ++ " elements"))

/-- A structure from a draft. Fields that are not given are those of `initial`. -/
def decode (record : Record α) (initial : α) (room : Nat) : Draft → Except Cause α
  | .list items => do
    let room ← Draft.enter room
    record.setItems room initial record.fields items
  | .object members => do
    let room ← Draft.enter room
    let (seen, a) ← record.setMembers room [] initial members
    match record.required.find? (!seen.contains ·) with
    | none => return a
    | some missing => .error (.missingField missing)
  | draft => .error (draft.mismatch ("struct " ++ record.name))

end Record

/-! ## Texts -/

/-- Takes something from the whole of a text. -/
def decodeText {α : Type} (read : Draft → Except Cause α) (text : String) : Except Cause α := do
  let (draft, trailing) := Draft.ofText text
  let a ← read draft
  if trailing then .error .trailingCharacters else return a

/-- The value of a text in which texts of values are embedded at most `layers` deep. -/
def ofTextWithin : Nat → String → Except Cause Json
  | 0, text => decodeText (Draft.value none maxDepth) text
  | layers + 1, text => decodeText (Draft.value (some (ofTextWithin layers)) maxDepth) text

/-- The value of a text. A text is longer than those that it embeds, so its length bounds how deep
they are. -/
def ofText (text : String) : Except Cause Json := ofTextWithin text.length text

/-- The value of a draft whose objects can embed texts. -/
def Draft.unfolded (room : Nat) (draft : Draft) : Except Cause Json :=
  draft.value (some Json.ofText) room

end SceneScript.Json
