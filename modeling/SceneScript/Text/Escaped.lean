import SceneScript.Text.Unprintable

/-!
# Text inside messages

A message shows a text between double quotes, with escapes for what would not be seen or would end
the text.

* `escapeChar`, `escaped`: one character, a whole text.
-/

namespace SceneScript.Text

/-- One character of a text shown in a message. -/
def escapeChar (c : Char) : List Char :=
  if c = '"' then ['\\', '"']
  else if c = '\\' then ['\\', '\\']
  else if c = '\n' then ['\\', 'n']
  else if c = '\r' then ['\\', 'r']
  else if c = '\t' then ['\\', 't']
  else if c.toNat = 0 then ['\\', '0']
  else if isUnprintable c then
    ['\\', 'u', '\x7b'] ++ Nat.toDigits 16 c.toNat ++ ['\x7d']
  else [c]

/-- A text as messages show it, with its quotes. -/
def escaped (text : String) : String :=
  String.ofList ('"' :: text.toList.flatMap escapeChar ++ ['"'])

end SceneScript.Text
