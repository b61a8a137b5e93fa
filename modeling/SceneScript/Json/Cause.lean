import SceneScript.Json.Basic
import SceneScript.Text.Escaped

/-!
# Why a JSON text is refused

* `Json.Found`: what stands where something else is expected.
* `Json.Cause`, `Json.Cause.message`: a reason, and its wording.
-/

namespace SceneScript.Json

/-- What stands in a text. -/
inductive Found where
  | null
  | bool (value : Bool)
  | number (value : Number)
  | string (text : String)
  | list
  | object

/-- How messages name what stands in a text. -/
def Found.text : Found → String
  | .null => "null"
  | .bool value => "boolean `" ++ (if value then "true" else "false") ++ "`"
  | .number (.int value) => "integer `" ++ toString value ++ "`"
  | .number (.float value) => "floating point `" ++ Number.layout.write value ++ "`"
  | .string text => "string " ++ Text.escaped text
  | .list => "sequence"
  | .object => "map"

/-- The reason why a text is refused. -/
inductive Cause where
  /-- The text ends where a value is due. -/
  | endInValue
  | endInList
  | endInObject
  | endInString
  | expectedValue
  /-- A word other than `null`, `true` and `false`. -/
  | expectedWord
  | expectedColon
  | expectedListComma
  | expectedObjectComma
  | keyNotString
  | trailingComma
  /-- Something follows the value. -/
  | trailingCharacters
  | badNumber
  | numberOutOfRange
  | badEscape
  | controlCharacter
  /-- The second half of a surrogate pair does not stand behind the first half. -/
  | loneSurrogate
  /-- The first half of a surrogate pair is not followed by an escape. -/
  | cutSurrogate
  /-- Too many lists and objects inside each other. -/
  | tooDeep
  | wrongType (found : Found) (expected : String)
  | wrongValue (found : Found) (expected : String)
  | wrongLength (length : Nat) (expected : String)
  | duplicateField (name : String)
  | missingField (name : String)

/-- The wording of a reason. -/
def Cause.message : Cause → String
  | .endInValue => "EOF while parsing a value"
  | .endInList => "EOF while parsing a list"
  | .endInObject => "EOF while parsing an object"
  | .endInString => "EOF while parsing a string"
  | .expectedValue => "expected value"
  | .expectedWord => "expected ident"
  | .expectedColon => "expected `:`"
  | .expectedListComma => "expected `,` or `]`"
  | .expectedObjectComma => "expected `,` or `\x7d`"
  | .keyNotString => "key must be a string"
  | .trailingComma => "trailing comma"
  | .trailingCharacters => "trailing characters"
  | .badNumber => "invalid number"
  | .numberOutOfRange => "number out of range"
  | .badEscape => "invalid escape"
  | .controlCharacter => "control character (\\u0000-\\u001F) found while parsing a string"
  | .loneSurrogate => "lone leading surrogate in hex escape"
  | .cutSurrogate => "unexpected end of hex escape"
  | .tooDeep => "recursion limit exceeded"
  | .wrongType found expected => "invalid type: " ++ found.text ++ ", expected " ++ expected
  | .wrongValue found expected => "invalid value: " ++ found.text ++ ", expected " ++ expected
  | .wrongLength length expected => "invalid length " ++ toString length ++ ", expected " ++ expected
  | .duplicateField name => "duplicate field `" ++ name ++ "`"
  | .missingField name => "missing field `" ++ name ++ "`"

end SceneScript.Json
