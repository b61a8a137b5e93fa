import SceneScript.Toml.Moment
import SceneScript.Toml.Number
import SceneScript.Toml.Text

/-!
# TOML documents

A document is a list of lines: blank ones, keys with their values, and headers that say to which
table the keys after them belong. Only lists and texts can go over several lines. Lists and tables
in braces can be nested 79 deep, and a key has at most 79 names.

* `Toml.readValue?`: a value.
* `Toml.Statement`, `Toml.readStatement?`: what a line says.
* `Toml.ofText`: the entries of a document.
-/

namespace SceneScript.Toml

/-- How deep lists and tables can be nested, and how many names a key can have. -/
def maxDepth : Nat := 79

/-! ## Gaps -/

/-- Drops a comment up to the end of its line. -/
def dropComment : List Char → List Char
  | '#' :: rest => rest.dropWhile fun c => !isControl c
  | text => text

/-- Drops spaces, line breaks and comments; `comment` holds within a comment. -/
def dropGap : Bool → List Char → List Char
  | _, [] => []
  | comment, c :: rest =>
    if c = '\n' then dropGap false rest
    else if comment then if isControl c then c :: rest else dropGap true rest
    else if isSpace c then dropGap false rest
    else if c = '#' then dropGap true rest
    else c :: rest

/-- What follows the end of a line; spaces and a comment can stand before it. -/
def readEnd? (text : List Char) : Option (List Char) :=
  match dropComment (text.dropWhile isSpace) with
  | [] => some []
  | '\n' :: rest => some rest
  | _ => none

/-! ## Keys -/

/-- A key of at most `names` names with dots between them, and what follows it. -/
def readKey? : Nat → List Char → Option (Key × List Char)
  | 0, _ => none
  | names + 1, text => do
    let (name, rest) ← readName? (text.dropWhile isSpace)
    match rest.dropWhile isSpace with
    | '.' :: rest =>
      let (key, rest) ← readKey? names rest
      return ({ key with path := String.ofList name :: key.path }, rest)
    | rest => return (⟨[], String.ofList name⟩, rest)

/-! ## Values -/

/-- A value that holds no others, and what follows it. -/
def readScalar? : List Char → Option (Toml × List Char)
  | 't' :: 'r' :: 'u' :: 'e' :: rest => some (.bool true, rest)
  | 'f' :: 'a' :: 'l' :: 's' :: 'e' :: rest => some (.bool false, rest)
  | text =>
    match readText? text with
    | some (value, rest) => some (.string (String.ofList value), rest)
    | none =>
      match readMoment? text with
      | some rest => some (.moment (String.ofList (text.take (text.length - rest.length))), rest)
      | none => readNumber? text

/-- The items of a list from behind its bracket, and what follows it. Each item takes at least one
character, so that `fuel` is the length of the text. -/
def readItems? (value : List Char → Option (Toml × List Char)) :
    Nat → List Char → Option (List Toml × List Char)
  | 0, _ => none
  | fuel + 1, text =>
    match dropGap false text with
    | ']' :: rest => some ([], rest)
    | text => do
      let (item, rest) ← value text
      match dropGap false rest with
      | ',' :: rest =>
        let (items, rest) ← readItems? value fuel rest
        return (item :: items, rest)
      | ']' :: rest => return ([item], rest)
      | _ => none

/-- A key and its value, and what follows them. -/
def readEntry? (value : List Char → Option (Toml × List Char)) (text : List Char) :
    Option ((Key × Toml) × List Char) := do
  let (key, rest) ← readKey? maxDepth text
  let '=' :: rest := rest | none
  let (item, rest) ← value (rest.dropWhile isSpace)
  return ((key, item), rest.dropWhile isSpace)

/-- The entries of a table in braces, of which there is at least one, and what follows it. The
entries up to here are `entries`. -/
def readInline? (value : List Char → Option (Toml × List Char)) :
    Nat → Entries → List Char → Option (Entries × List Char)
  | 0, _, _ => none
  | fuel + 1, entries, text => do
    let ((key, item), rest) ← readEntry? value text
    let entries ← entries.give? key item
    match rest with
    | ',' :: rest => readInline? value fuel entries rest
    | '\x7d' :: rest => return (entries, rest)
    | _ => none

/-- A value in which others are nested at most `depth` deep, and what follows it. -/
def readValue? : Nat → List Char → Option (Toml × List Char)
  | 0, text => readScalar? text
  | depth + 1, '[' :: rest => do
    let (items, rest) ← readItems? (readValue? depth) rest.length rest
    return (.list items, rest)
  | depth + 1, '\x7b' :: rest =>
    match rest.dropWhile isSpace with
    | '\x7d' :: rest => some (.table .inline [], rest)
    | inner => do
      let (entries, rest) ← readInline? (readValue? depth) inner.length [] inner
      return (.table .inline entries, rest)
  | _ + 1, text => readScalar? text

/-! ## Lines -/

/-- What a line says. -/
inductive Statement where
  | blank
  /-- A header for one table. -/
  | table (key : Key)
  /-- A header that can be repeated. -/
  | element (key : Key)
  | entry (key : Key) (value : Toml)

/-- What a line says, and what follows it. -/
def readStatement? (text : List Char) : Option (Statement × List Char) :=
  match readEnd? text with
  | some rest => some (.blank, rest)
  | none =>
    match text.dropWhile isSpace with
    | '[' :: '[' :: rest => do
      let (key, rest) ← readKey? maxDepth rest
      let ']' :: ']' :: rest := rest | none
      return (.element key, ← readEnd? rest)
    | '[' :: rest => do
      let (key, rest) ← readKey? maxDepth rest
      let ']' :: rest := rest | none
      return (.table key, ← readEnd? rest)
    | text => do
      let ((key, value), rest) ← readEntry? (readValue? maxDepth) text
      return (.entry key value, ← readEnd? rest)

/-- A document up to some line. -/
structure Draft where
  entries : Entries := []
  /-- The names of the table that the last header has opened. -/
  opened : List String := []

/-- Adds what a line says. -/
def Draft.add? (d : Draft) : Statement → Option Draft
  | .blank => some d
  | .table key => do return ⟨← d.entries.openTable? key, key.path ++ [key.name]⟩
  | .element key => do return ⟨← d.entries.openElement? key, key.path ++ [key.name]⟩
  | .entry key value => do return { d with entries := ← d.entries.giveAt? d.opened key value }

/-! ## Documents -/

/-- Why a text is no document. -/
inductive Fault where
  /-- Lines from this one on cannot be read. -/
  | unreadable (line : Nat)
  /-- The line does not fit the lines before it. -/
  | conflict (line : Nat)
deriving DecidableEq

/-- The wording of a fault. -/
def Fault.message : Fault → String
  | unreadable line => "cannot read line " ++ toString line
  | conflict line => "line " ++ toString line ++ " is at odds with the lines before it"

/-- Reads the lines of a text, of which `breaks` line breaks are counted in all. Each line takes at
least one character. -/
def readLines (breaks : Nat) : Nat → Draft → List Char → Except Fault Draft
  | 0, d, _ | _, d, [] => .ok d
  | fuel + 1, d, text =>
    let line := breaks - text.count '\n' + 1
    match readStatement? text with
    | none => .error (.unreadable line)
    | some (statement, rest) =>
      match d.add? statement with
      | none => .error (.conflict line)
      | some d => readLines breaks fuel d rest

/-- Makes every line break a single character. -/
def unifyBreaks : List Char → List Char
  | '\r' :: '\n' :: rest => '\n' :: unifyBreaks rest
  | c :: rest => c :: unifyBreaks rest
  | [] => []

/-- Drops a mark of the byte order. -/
def dropMark : List Char → List Char
  | '\ufeff' :: rest => rest
  | text => text

/-- The entries of a document. -/
def ofText (text : String) : Except Fault Entries :=
  let text := dropMark (unifyBreaks text.toList)
  (readLines (text.count '\n') text.length {} text).map Draft.entries

end SceneScript.Toml
