import SceneScript.Json.Spelling
import SceneScript.Toml.Basic

/-!
# Texts in TOML

A text stands in double quotes, with escapes, or in single quotes, without. Between three quotes it
can have several lines, and a line break right behind the opening quotes is not part of it. Line
breaks are single characters here.

* `Toml.readText?`: a text in quotes of any kind.
* `Toml.readName?`: a name, which can do without quotes.
-/

namespace SceneScript.Toml

/-- The characters that separate the parts of a line. -/
def isSpace (c : Char) : Bool := c = ' ' || c = '\t'

/-- The characters that cannot stand within a line. -/
def isControl (c : Char) : Bool := (c.toNat < 0x20 && c ≠ '\t') || c.toNat == 0x7f

/-- The characters that a text can have as they are. -/
def isPlain (lines : Bool) (c : Char) : Bool := !isControl c || (lines && c = '\n')

/-- The end of a text and what follows it. Of up to five quotes that end a text of several lines the
last three close it. -/
def closing? (lines : Bool) (quote : Char) (text : List Char) : Option (List Char × List Char) :=
  let run := (text.takeWhile (· = quote)).length
  if lines then
    if run < 3 then none else some (List.replicate (min run 5 - 3) quote, text.drop (min run 5))
  else if run = 0 then none
  else some ([], text.drop 1)

/-- Puts a character before a text. -/
def push (c : Char) (read : Option (List Char × List Char)) : Option (List Char × List Char) :=
  read.map fun (text, rest) => (c :: text, rest)

/-! ## Escapes -/

/-- The number that hexadecimal digits spell. -/
def hexValue? (digits : List Char) : Option Nat :=
  digits.foldlM (fun n c => (Json.Spelling.hexDigit? c).map (16 * n + ·)) 0

/-- The character whose code point hexadecimal digits spell. -/
def codePoint? (digits : List Char) : Option Char := do
  let n ← hexValue? digits
  if n.isValidChar then some (Char.ofNat n) else none

/-- The character of an escape of one letter. -/
def letterEscape? (c : Char) : Option Char :=
  [('b', '\x08'), ('t', '\t'), ('n', '\n'), ('f', '\x0c'), ('r', '\r'), ('"', '"'),
    ('\\', '\\')].lookup c

/-- Nothing but spaces stands before the end of the line. -/
def endsLine (text : List Char) : Bool := (text.dropWhile isSpace).head? == some '\n'

/-! ## Texts -/

/-- A text from behind its opening double quotes, and what follows it. A backslash at the end of a
line joins the text to what comes after all spaces and line breaks; these are left out as long as
`joining` holds. -/
def readBasic? (lines : Bool) : Bool → List Char → Option (List Char × List Char)
  | _, [] => none
  | _, '\\' :: 'u' :: a :: b :: c :: d :: rest => do
    push (← codePoint? [a, b, c, d]) (readBasic? lines false rest)
  | _, '\\' :: 'U' :: a :: b :: c :: d :: e :: f :: g :: h :: rest => do
    push (← codePoint? [a, b, c, d, e, f, g, h]) (readBasic? lines false rest)
  | _, '\\' :: c :: rest =>
    if lines && endsLine (c :: rest) then readBasic? lines true (c :: rest)
    else do push (← letterEscape? c) (readBasic? lines false rest)
  | joining, c :: rest =>
    if joining && (isSpace c || c = '\n') then readBasic? lines true rest
    else
      match closing? lines '"' (c :: rest) with
      | some read => some read
      | none => if isPlain lines c then push c (readBasic? lines false rest) else none

/-- A text from behind its opening single quotes, and what follows it. -/
def readLiteral? (lines : Bool) : List Char → Option (List Char × List Char)
  | [] => none
  | c :: rest =>
    match closing? lines '\x27' (c :: rest) with
    | some read => some read
    | none => if isPlain lines c then push c (readLiteral? lines rest) else none

/-- Drops a line break. -/
def dropBreak : List Char → List Char
  | '\n' :: rest => rest
  | text => text

/-- A text in quotes, and what follows it. -/
def readText? : List Char → Option (List Char × List Char)
  | '"' :: '"' :: '"' :: rest => readBasic? true false (dropBreak rest)
  | '"' :: rest => readBasic? false false rest
  | '\x27' :: '\x27' :: '\x27' :: rest => readLiteral? true (dropBreak rest)
  | '\x27' :: rest => readLiteral? false rest
  | _ => none

/-! ## Names -/

/-- The characters of a name without quotes. -/
def isNameChar (c : Char) : Bool := c.isAlphanum || c = '_' || c = '-'

/-- A name, and what follows it. Quoted names are texts of one line. -/
def readName? : List Char → Option (List Char × List Char)
  | '"' :: rest => readBasic? false false rest
  | '\x27' :: rest => readLiteral? false rest
  | text =>
    let name := text.takeWhile isNameChar
    if name.isEmpty then none else some (name, text.dropWhile isNameChar)

end SceneScript.Toml
