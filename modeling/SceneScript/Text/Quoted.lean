/-!
# String literals of a script

A script writes a text between double quotes. Quotes, backslashes, control characters and the two
separators that end a line are written as escapes, so a literal never leaves its line and ends at
its own closing quote.

* `quoteChar`: how one character stands inside a literal.
* `quote`: the literal of a text.
-/

namespace SceneScript.Text

/-- The control characters: the two control blocks and delete. -/
def isControl (c : Char) : Bool :=
  c.toNat < 0x20 || (0x7f ≤ c.toNat && c.toNat ≤ 0x9f)

/-- The line and the paragraph separator. -/
def isSeparator (c : Char) : Bool :=
  c.toNat == 0x2028 || c.toNat == 0x2029

/-- The last four hexadecimal digits of a number, in lower case. -/
def hexQuad (n : Nat) : List Char :=
  [n / 4096 % 16, n / 256 % 16, n / 16 % 16, n % 16].map Nat.digitChar

/-- One character inside a literal. -/
def quoteChar (c : Char) : List Char :=
  if c = '"' then ['\\', '"']
  else if c = '\\' then ['\\', '\\']
  else if c = '\n' then ['\\', 'n']
  else if c = '\r' then ['\\', 'r']
  else if c = '\t' then ['\\', 't']
  else if isControl c || isSeparator c then '\\' :: 'u' :: hexQuad c.toNat
  else [c]

/-- The literal of a text, with its quotes. -/
def quote (text : String) : String :=
  String.ofList ('"' :: text.toList.flatMap quoteChar ++ ['"'])

end SceneScript.Text
