import SceneScript.Json.Basic
import SceneScript.Text.Quoted

/-!
# Writing JSON

* `Json.compact`: on one line, without spaces.
* `Json.pretty`: one member or item a line, indented by two blanks.
-/

namespace SceneScript.Json

/-- One character of a string. Only quotes, backslashes and the controls below the blank are
escaped. -/
def writeChar (c : Char) : List Char :=
  if c = '"' then ['\\', '"']
  else if c = '\\' then ['\\', '\\']
  else if c = '\n' then ['\\', 'n']
  else if c = '\r' then ['\\', 'r']
  else if c = '\t' then ['\\', 't']
  else if c.toNat = 8 then ['\\', 'b']
  else if c.toNat = 12 then ['\\', 'f']
  else if c.toNat < 0x20 then '\\' :: 'u' :: Text.hexQuad c.toNat
  else [c]

/-- A string with its quotes. -/
def writeString (text : String) : String :=
  String.ofList ('"' :: text.toList.flatMap writeChar ++ ['"'])

/-- Parts between brackets, each with `lead` before it and `last` behind the last one; only the
brackets if there are no parts. -/
def enclose (opening closing lead last : String) (parts : List String) : String :=
  if parts.isEmpty then opening ++ closing
  else opening ++ lead ++ String.intercalate ("," ++ lead) parts ++ last ++ closing

mutual

/-- The text of a value on one line. -/
def compact : Json → String
  | .null => "null"
  | .bool value => if value then "true" else "false"
  | .number value => value.text
  | .string text => writeString text
  | .list items => enclose "[" "]" "" "" (compactItems items)
  | .object members => enclose "\x7b" "\x7d" "" "" (compactMembers members)

/-- The texts of the items of a list. -/
def compactItems : List Json → List String
  | [] => []
  | item :: rest => compact item :: compactItems rest

/-- The texts of the members of an object. -/
def compactMembers : List (String × Json) → List String
  | [] => []
  | (name, value) :: rest => (writeString name ++ ":" ++ compact value) :: compactMembers rest

end

/-- The end of a line, and the margin of the next one. -/
def newline (depth : Nat) : String :=
  "\n" ++ String.ofList (List.replicate (2 * depth) ' ')

mutual

/-- The text of a value over several lines, inside `depth` lists and objects. -/
def prettyAt (depth : Nat) : Json → String
  | .null => "null"
  | .bool value => if value then "true" else "false"
  | .number value => value.text
  | .string text => writeString text
  | .list items =>
    enclose "[" "]" (newline (depth + 1)) (newline depth) (prettyItems (depth + 1) items)
  | .object members =>
    enclose "\x7b" "\x7d" (newline (depth + 1)) (newline depth) (prettyMembers (depth + 1) members)

/-- The texts of the items of a list. -/
def prettyItems (depth : Nat) : List Json → List String
  | [] => []
  | item :: rest => prettyAt depth item :: prettyItems depth rest

/-- The texts of the members of an object. -/
def prettyMembers (depth : Nat) : List (String × Json) → List String
  | [] => []
  | (name, value) :: rest =>
    (writeString name ++ ": " ++ prettyAt depth value) :: prettyMembers depth rest

end

/-- The text of a value over several lines. -/
def pretty (value : Json) : String := prettyAt 0 value

end SceneScript.Json
