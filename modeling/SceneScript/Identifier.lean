/-!
# Identifiers

* `reservedWords`: the words of the script language, and the globals that the scene relies on.
* `legalize`: an identifier for any text.
-/

namespace SceneScript

/-- The words that no identifier may be. -/
def reservedWords : List String :=
  ["arguments", "async", "await", "break", "case", "catch", "class", "const", "continue",
    "debugger", "default", "delete", "do", "else", "enum", "eval", "export", "extends", "false",
    "finally", "for", "function", "if", "implements", "import", "in", "Infinity", "instanceof",
    "interface", "let", "NaN", "new", "null", "of", "package", "private", "protected", "public",
    "return", "static", "super", "switch", "this", "throw", "true", "try", "typeof", "undefined",
    "var", "void", "while", "with", "yield",
    "Array", "Boolean", "console", "document", "JSON", "Math", "Number", "Object", "Promise",
    "String", "Symbol", "window"]

/-- The characters of identifiers. -/
def isIdentifierChar (c : Char) : Bool :=
  c.isAlphanum || c = '_' || c = '$'

/-- The characters of a text, each that cannot stand in an identifier replaced by `_`. A text
without characters gets a name, and a leading digit something to lead it. -/
def legalizeChars (text : List Char) : List Char :=
  match text.map fun c => if isIdentifierChar c then c else '_' with
  | [] => "unnamed".toList
  | c :: rest => if c.isDigit then "my_".toList ++ c :: rest else c :: rest

/-- An identifier for a text. -/
def legalize (text : String) : String := String.ofList (legalizeChars text.toList)

end SceneScript
