import SceneScript.Json.Cause

/-!
# Strings as a JSON text spells them

A spelling keeps the escapes of a string as they are written. A string that is only passed over may
spell half of a surrogate pair; a string whose text is wanted may not.

* `Spelling`, `Spelling.read`: the pieces of a string, and reading them.
* `Spelling.text`: the text that a spelling stands for.
* `Spelling.skim`: the fault of a string that is passed over.
-/

namespace SceneScript.Json

/-- One piece of a string. -/
inductive Piece where
  | plain (c : Char)
  /-- An escape of one letter, by the character it stands for. -/
  | escape (c : Char)
  /-- An escape of four hexadecimal digits. -/
  | unit (code : Nat)
deriving DecidableEq

/-- How the pieces of a string end. -/
inductive Ending where
  | closed
  | unterminated
  | control
  | badEscape
  | badHex
deriving DecidableEq

/-- A string as it is written. -/
structure Spelling where
  pieces : List Piece
  ending : Ending
deriving DecidableEq

namespace Spelling

/-! ## Reading -/

/-- The character of an escape of one letter. -/
def letterEscape? (c : Char) : Option Char :=
  [('"', '"'), ('\\', '\\'), ('/', '/'), ('b', '\x08'), ('f', '\x0c'), ('n', '\n'), ('r', '\r'),
    ('t', '\t')].lookup c

/-- The value of a hexadecimal digit. -/
def hexDigit? (c : Char) : Option Nat :=
  if '0' ≤ c ∧ c ≤ '9' then some (c.toNat - '0'.toNat)
  else if 'a' ≤ c ∧ c ≤ 'f' then some (c.toNat - 'a'.toNat + 10)
  else if 'A' ≤ c ∧ c ≤ 'F' then some (c.toNat - 'A'.toNat + 10)
  else none

/-- The value of four hexadecimal digits. -/
def hexQuad? (a b c d : Char) : Option Nat := do
  return 4096 * (← hexDigit? a) + 256 * (← hexDigit? b) + 16 * (← hexDigit? c) + (← hexDigit? d)

/-- A spelling with a piece put before it, and what follows the string. -/
def push (piece : Piece) (read : Spelling × List Char) : Spelling × List Char :=
  (⟨piece :: read.1.pieces, read.1.ending⟩, read.2)

/-- A string from behind its opening quote, and what follows it; nothing follows a string that is
not closed. Four hexadecimal digits need four bytes of text. -/
def read : List Char → Spelling × List Char
  | [] => (⟨[], .unterminated⟩, [])
  | '"' :: rest => (⟨[], .closed⟩, rest)
  | '\\' :: 'u' :: a :: b :: c :: d :: rest =>
    match hexQuad? a b c d with
    | some code => push (.unit code) (read rest)
    | none => (⟨[], .badHex⟩, [])
  | '\\' :: 'u' :: rest =>
    (⟨[], if 4 ≤ (rest.map Char.utf8Size).sum then .badHex else .unterminated⟩, [])
  | '\\' :: c :: rest =>
    match letterEscape? c with
    | some e => push (.escape e) (read rest)
    | none => (⟨[], .badEscape⟩, [])
  | ['\\'] => (⟨[], .unterminated⟩, [])
  | c :: rest => if c.toNat < 0x20 then (⟨[], .control⟩, []) else push (.plain c) (read rest)

/-! ## The text of a string -/

/-- The code is the first half of a surrogate pair. -/
def isHigh (code : Nat) : Bool := 0xd800 ≤ code && code ≤ 0xdbff

/-- The code is the second half of a surrogate pair. -/
def isLow (code : Nat) : Bool := 0xdc00 ≤ code && code ≤ 0xdfff

/-- The character of a surrogate pair. -/
def joinPair (high low : Nat) : Char :=
  Char.ofNat (0x10000 + (high - 0xd800) * 0x400 + (low - 0xdc00))

/-- The fault of an ending. -/
def skim (s : Spelling) : Except Cause Unit :=
  match s.ending with
  | .closed => .ok ()
  | .unterminated => .error .endInString
  | .control => .error .controlCharacter
  | .badEscape | .badHex => .error .badEscape

/-- The fault of an ending right behind the first half of a surrogate pair. -/
def endingAfterHigh : Ending → Cause
  | .unterminated => .endInString
  | .badHex => .badEscape
  | .closed | .control | .badEscape => .cutSurrogate

/-- The characters that the pieces stand for, up to the fault of the ending. -/
def characters (ending : Ending) : List Piece → Except Cause (List Char)
  | [] => (skim ⟨[], ending⟩).map fun _ => []
  | .plain c :: rest => (characters ending rest).map (c :: ·)
  | .escape c :: rest => (characters ending rest).map (c :: ·)
  | .unit high :: .unit low :: rest =>
    if isLow high then .error .loneSurrogate
    else if isHigh high then
      if isLow low then (characters ending rest).map (joinPair high low :: ·)
      else .error .loneSurrogate
    else (characters ending (.unit low :: rest)).map (Char.ofNat high :: ·)
  | .unit code :: rest =>
    if isLow code then .error .loneSurrogate
    else if isHigh code then
      .error (if rest.isEmpty then endingAfterHigh ending else .cutSurrogate)
    else (characters ending rest).map (Char.ofNat code :: ·)

/-- The text that a spelling stands for. -/
def text (s : Spelling) : Except Cause String :=
  (characters s.ending s.pieces).map String.ofList

end Spelling

end SceneScript.Json
