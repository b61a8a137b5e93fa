import SceneScript.Json.Numeral
import SceneScript.Json.Spelling

/-!
# Drafts of JSON values

A draft is what a text says as far as it is JSON: a tree of numerals and spellings, cut off at the
first fault of the text. Every text has a draft. What is taken from a draft is taken from left to
right, so whoever reaches the fault reports it, and whoever refuses something before it does not
see it. A value that is only passed over words a few faults differently from one that is read.

* `Fault`: what is wrong at the place where a draft breaks off.
* `Draft`, `Draft.Items`, `Draft.Members`: drafts of values, and what lists and objects hold.
* `Draft.ofText`: the draft of a text.
-/

namespace SceneScript.Json

/-- What is wrong at the place where a draft breaks off. -/
inductive Fault where
  | endInValue
  | endInList
  | endInObject
  | expectedValue
  | expectedWord
  | expectedColon
  | expectedListComma
  | expectedObjectComma
  | keyNotString
  | numeral (broken : Numeral.Broken)
  /-- A list is closed behind a comma. -/
  | listComma
  /-- An object is closed behind a comma. -/
  | objectComma
  | endAfterListComma
  | endAfterObjectComma
deriving DecidableEq

namespace Fault

/-- The fault for one who reads the value. -/
def reading : Fault → Cause
  | endInValue => .endInValue
  | endInList => .endInList
  | endInObject => .endInObject
  | expectedValue => .expectedValue
  | expectedWord => .expectedWord
  | expectedColon => .expectedColon
  | expectedListComma => .expectedListComma
  | expectedObjectComma => .expectedObjectComma
  | keyNotString => .keyNotString
  | numeral broken => if broken.atEnd then .endInValue else .badNumber
  | listComma | objectComma => .trailingComma
  | endAfterListComma | endAfterObjectComma => .endInValue

/-- The fault for one who passes over the value. -/
def skimming : Fault → Cause
  | numeral _ => .badNumber
  | listComma => .expectedValue
  | objectComma => .keyNotString
  | endAfterObjectComma => .endInObject
  | fault => fault.reading

end Fault

mutual

/-- What a text says as far as it is a JSON value. -/
inductive Draft where
  | null
  | bool (value : Bool)
  | number (numeral : Numeral)
  | string (spelling : Spelling)
  | list (items : Draft.Items)
  | object (members : Draft.Members)
  | broken (fault : Fault)

/-- The items of a list, up to its bracket or to the fault that cuts it off. -/
inductive Draft.Items where
  | closed
  | cut (fault : Fault)
  | item (head : Draft) (rest : Draft.Items)

/-- The members of an object, up to its brace or to the fault that cuts it off. -/
inductive Draft.Members where
  | closed
  | cut (fault : Fault)
  | member (key : Spelling) (value : Draft) (rest : Draft.Members)

end

deriving instance DecidableEq for Draft, Draft.Items, Draft.Members

namespace Draft

/-! ## Reading a text -/

/-- The characters that separate the parts of a JSON text. -/
def isSpace (c : Char) : Bool := c = ' ' || c = '\t' || c = '\n' || c = '\r'

/-- A text from its first character on that is no space. -/
def skipSpaces (text : List Char) : List Char := text.dropWhile isSpace

/-- The rest of a word. -/
def readWord (draft : Draft) : List Char → List Char → Draft × List Char
  | [], text => (draft, text)
  | _ :: _, [] => (.broken .endInValue, [])
  | c :: word, d :: text =>
    if c = d then readWord draft word text else (.broken .expectedWord, [])

/-- A number behind its sign. -/
def readNumber (negative : Bool) (text : List Char) : Draft × List Char :=
  match Numeral.read negative text with
  | .ok (numeral, rest) => (.number numeral, rest)
  | .error flaw => (.broken (.numeral flaw), [])

mutual

/-- A value and what follows it; nothing follows a value that is broken. -/
def readValue : Nat → List Char → Draft × List Char
  | 0, _ => (.broken .endInValue, [])
  | fuel + 1, text =>
    match skipSpaces text with
    | [] => (.broken .endInValue, [])
    | 'n' :: rest => readWord .null "ull".toList rest
    | 't' :: rest => readWord (.bool true) "rue".toList rest
    | 'f' :: rest => readWord (.bool false) "alse".toList rest
    | '-' :: rest => readNumber true rest
    | '"' :: rest =>
      let (spelling, rest) := Spelling.read rest
      (.string spelling, rest)
    | '[' :: rest =>
      let (items, rest) := readItems fuel true rest
      (.list items, rest)
    | '\x7b' :: rest =>
      let (members, rest) := readMembers fuel true rest
      (.object members, rest)
    | c :: rest =>
      if c.isDigit then readNumber false (c :: rest) else (.broken .expectedValue, [])

/-- The items of a list from its first one, or from behind an item. -/
def readItems : Nat → Bool → List Char → Items × List Char
  | 0, _, _ => (.cut .endInList, [])
  | fuel + 1, first, text =>
    match skipSpaces text with
    | [] => (.cut .endInList, [])
    | ']' :: rest => (.closed, rest)
    | c :: rest =>
      if first then readItem fuel (c :: rest)
      else if c = ',' then
        match skipSpaces rest with
        | [] => (.cut .endAfterListComma, [])
        | ']' :: _ => (.cut .listComma, [])
        | rest => readItem fuel rest
      else (.cut .expectedListComma, [])

/-- An item of a list and those that follow it. -/
def readItem : Nat → List Char → Items × List Char
  | 0, _ => (.cut .endInList, [])
  | fuel + 1, text =>
    let (head, rest) := readValue fuel text
    let (items, rest) := readItems fuel false rest
    (.item head items, rest)

/-- The members of an object from its first one, or from behind a member. -/
def readMembers : Nat → Bool → List Char → Members × List Char
  | 0, _, _ => (.cut .endInObject, [])
  | fuel + 1, first, text =>
    match skipSpaces text with
    | [] => (.cut .endInObject, [])
    | '\x7d' :: rest => (.closed, rest)
    | c :: rest =>
      if first then
        if c = '"' then readMember fuel rest else (.cut .keyNotString, [])
      else if c = ',' then
        match skipSpaces rest with
        | [] => (.cut .endAfterObjectComma, [])
        | '\x7d' :: _ => (.cut .objectComma, [])
        | '"' :: rest => readMember fuel rest
        | _ => (.cut .keyNotString, [])
      else (.cut .expectedObjectComma, [])

/-- A member of an object, from behind the quote that opens its name, and those that follow it. -/
def readMember : Nat → List Char → Members × List Char
  | 0, _ => (.cut .endInObject, [])
  | fuel + 1, text =>
    let (key, rest) := Spelling.read text
    let (value, rest) :=
      match skipSpaces rest with
      | [] => (.broken .endInObject, [])
      | ':' :: rest => readValue fuel rest
      | _ => (.broken .expectedColon, [])
    let (members, rest) := readMembers fuel false rest
    (.member key value members, rest)

end

/-- The draft of a text, and whether something follows the value. Each step of the reading but two
consumes a character, so three steps for each character are enough. -/
def ofText (text : String) : Draft × Bool :=
  let characters := text.toList
  let (draft, rest) := readValue (3 * characters.length + 3) characters
  (draft, !(skipSpaces rest).isEmpty)

end Draft

end SceneScript.Json
