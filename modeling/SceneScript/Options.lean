import SceneScript.Json.Decode

/-!
# Options

* `ScriptOptions`: how a script is written.
* `Options`: these, and whether a workspace is checked on the way.
* `Options.ofJson`, `Options.ofText`: options from JSON. What is not given keeps its default, and
  what is not known is passed over.
-/

namespace SceneScript

/-- How a script is written. -/
structure ScriptOptions where
  /-- The object that has the operations of the scene. -/
  runtime : String := "threeD"
  /-- What a nested line starts with. -/
  indent : String := "  "
  /-- Values that an input does not accept are left out. -/
  checkSockets : Bool := false
deriving DecidableEq, Inhabited

/-- The options of the compiler. -/
structure Options where
  script : ScriptOptions := {}
  /-- The workspace is checked, and what is found is reported. -/
  validate : Bool := true
deriving DecidableEq, Inhabited

namespace Options

open Json

/-- What stands in a value. -/
def found : Json → Found
  | .null => .null
  | .bool b => .bool b
  | .number n => .number n
  | .string text => .string text
  | .list _ => .list
  | .object _ => .object

/-- A truth value. -/
def asBool : Json → Except Cause Bool
  | .bool b => .ok b
  | value => .error (.wrongType (found value) "a boolean")

/-- A text. -/
def asString : Json → Except Cause String
  | .string text => .ok text
  | value => .error (.wrongType (found value) "a string")

/-- Sets the options on how a script is written, in the order in which they are given; `seen` are
those that are set already. -/
def setScript (seen : List String) (o : ScriptOptions) :
    List (String × Json) → Except Cause ScriptOptions
  | [] => .ok o
  | (name, value) :: rest => do
    if seen.contains name then .error (.duplicateField name)
    else if name = "runtime_namespace" then
      setScript (name :: seen) { o with runtime := ← asString value } rest
    else if name = "indent" then
      setScript (name :: seen) { o with indent := ← asString value } rest
    else if name = "check_sockets" then
      setScript (name :: seen) { o with checkSockets := ← asBool value } rest
    else setScript seen o rest

/-- The options of an object as they are read: `validate`, if it is given, and all other members. -/
structure Given where
  validate : Option Bool := none
  others : List (String × Json) := []

/-- The options that are given; the other members are looked at only now. -/
def Given.options (g : Given) : Except Cause Options := do
  let script ← setScript [] {} g.others
  return { script, validate := g.validate.getD true }

/-- Reads the members of an object. The option `validate` is taken at its place. -/
def readMembers (room : Nat) (validate : Option Bool) : Draft.Members → Except Cause Given
  | .closed => .ok { validate }
  | .cut fault => .error fault.reading
  | .member key value rest => do
    let name ← key.text
    if name = "validate" then
      if validate.isSome then .error (.duplicateField name)
      else readMembers room (some (← value.asBool)) rest
    else
      let v ← value.value none room
      let g ← readMembers room validate rest
      return { g with others := (name, v) :: g.others }

/-- Options from a draft. -/
def ofDraft : Draft → Except Cause Options
  | .object members => do
    let room ← Draft.enter maxDepth
    (← readMembers room none members).options
  | draft => .error (draft.mismatch "struct CompileOptions")

/-- Options from a text. -/
def ofText (text : String) : Except Cause Options := decodeText ofDraft text

/-- Options from a value, whose members come in increasing order of their names. -/
def ofJson : Json → Except Cause Options
  | .object members => do
    let given := Dict.ofList members
    let validate ← (given.get? "validate").mapM asBool
    ({ validate, others := given.entries } : Given).options
  | value => .error (.wrongType (found value) "struct CompileOptions")

end Options

end SceneScript
