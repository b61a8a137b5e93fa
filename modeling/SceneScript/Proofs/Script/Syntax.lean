import SceneScript.Identifier

/-!
# Syntax of scripts

The part of the script language that scenes are written in: string and number literals,
identifiers, lists, objects, objects built by an operation, handlers, assignments and calls. A text
is read in two steps, first into tokens and then into statements. The reader is strict: a text that
has anything else in it is not read at all.

* `Expr`, `Stmt`: syntax trees.
* `lex`: the tokens of a text.
* `readExpr`, `readStmt`: the first expression, the first statement of a list of tokens.
* `Script.read`: the statements of a text.
-/

namespace SceneScript.Script

mutual

/-- An expression. -/
inductive Expr where
  | name (identifier : String)
  | number (value : Rat)
  | string (text : String)
  | list (items : List Expr)
  | object (members : List (String × Expr))
  /-- `new object.method(args)` -/
  | construct (object method : String) (args : List Expr)
  /-- A function without arguments in which calls can be waited for. -/
  | handler (body : List Stmt)

/-- A statement. -/
inductive Stmt where
  | assign (target : String) (value : Expr)
  /-- `object.method(args)`, waited for or not. -/
  | call (awaited : Bool) (object method : String) (args : List Expr)

end

/-- The smallest parts of a text that have a meaning. -/
inductive Token where
  | word (text : String)
  | number (value : Rat)
  | string (text : String)
  /-- A bracket or a separator. -/
  | mark (c : Char)
  | arrow
deriving DecidableEq

/-! ## String literals -/

/-- The characters that end a line. -/
def isLineEnd (c : Char) : Bool := c = '\n' || c = '\r' || c.toNat = 0x2028 || c.toNat = 0x2029

/-- The value of a hexadecimal digit. -/
def hexDigit? (c : Char) : Option Nat :=
  if c.isDigit then some (c.toNat - '0'.toNat)
  else if 'a' ≤ c ∧ c ≤ 'f' then some (c.toNat - 'a'.toNat + 10)
  else if 'A' ≤ c ∧ c ≤ 'F' then some (c.toNat - 'A'.toNat + 10)
  else none

/-- The character of four hexadecimal digits. -/
def unicode? (a b c d : Char) : Option Char := do
  let n := ((← hexDigit? a) * 16 + (← hexDigit? b)) * 256 + (← hexDigit? c) * 16 + (← hexDigit? d)
  if n.isValidChar then some (Char.ofNat n) else none

/-- The character behind a backslash. -/
def escaped? (c : Char) : Option Char :=
  if c = 'n' then some '\n'
  else if c = 'r' then some '\r'
  else if c = 't' then some '\t'
  else if c = '"' ∨ c = '\\' then some c
  else none

/-- The text of a literal from behind its opening quote, and what follows its closing quote. -/
def readString : List Char → Option (List Char × List Char)
  | [] => none
  | '"' :: rest => some ([], rest)
  | '\\' :: 'u' :: a :: b :: c :: d :: rest => do
    let char ← unicode? a b c d
    let (text, rest) ← readString rest
    return (char :: text, rest)
  | '\\' :: c :: rest => do
    let char ← escaped? c
    let (text, rest) ← readString rest
    return (char :: text, rest)
  | c :: rest =>
    if c = '\\' || isLineEnd c then none
    else do
      let (text, rest) ← readString rest
      return (c :: text, rest)

/-! ## Number literals -/

/-- The number with these digits before and behind its point. -/
def decimal (negative : Bool) (whole places : List Char) : Rat :=
  let size := mkRat (Nat.ofDigitChars 10 (whole ++ places) 0) (Nat.pow 10 places.length)
  if negative then -size else size

/-- The digits behind a point, if there is a point, and what follows. -/
def readPlaces : List Char → Option (List Char) × List Char
  | '.' :: rest => (some (rest.takeWhile Char.isDigit), rest.dropWhile Char.isDigit)
  | rest => (none, rest)

/-- A number behind its sign. The digits before the point have no zero in front, a point has digits
behind it, and neither a letter nor another point follows. -/
def readNumber (negative : Bool) (text : List Char) : Option (Token × List Char) :=
  let whole := text.takeWhile Char.isDigit
  let behind := readPlaces (text.dropWhile Char.isDigit)
  if whole = [] ∨ (whole.head? = some '0' ∧ 1 < whole.length) ∨ behind.1 = some [] ∨
      behind.2.head?.any (fun c => isIdentifierChar c || c = '.') then none
  else some (.number (decimal negative whole (behind.1.getD [])), behind.2)

/-! ## Tokens -/

/-- The characters between tokens. -/
def isBlank (c : Char) : Bool := c = ' ' || c = '\t' || c = '\n' || c = '\r'

/-- Brackets and separators. -/
def isMark (c : Char) : Bool := "()[]\x7b\x7d,:;.".toList.contains c

/-- The token that starts with a character, and what follows it. -/
def readToken (c : Char) (rest : List Char) : Option (Token × List Char) :=
  if c.isDigit then readNumber false (c :: rest)
  else if isIdentifierChar c then
    some (.word (String.ofList (c :: rest.takeWhile isIdentifierChar)),
      rest.dropWhile isIdentifierChar)
  else if c = '-' then readNumber true rest
  else if c = '"' then
    (readString rest).map fun (text, rest) => (.string (String.ofList text), rest)
  else if c = '=' then
    if rest.head? = some '>' then some (.arrow, rest.tail) else some (.mark '=', rest)
  else if isMark c then some (.mark c, rest)
  else none

/-- The tokens of a text, at most `limit` of them with the blanks between them. -/
def lexWithin : Nat → List Char → Option (List Token)
  | _, [] => some []
  | 0, _ :: _ => none
  | limit + 1, c :: rest =>
    if isBlank c then lexWithin limit rest
    else do
      let (token, rest) ← readToken c rest
      return token :: (← lexWithin limit rest)

/-- The tokens of a text; there are no more of them than characters. -/
def lex (text : List Char) : Option (List Token) := lexWithin text.length text

/-! ## Statements -/

section Lists

variable {α : Type}

/-- Items with commas between them, up to a closing bracket. -/
def readItems (item : List Token → Option (α × List Token)) (close : Char) :
    Nat → List Token → Option (List α × List Token)
  | 0, _ => none
  | limit + 1, tokens => do
    let (a, rest) ← item tokens
    match rest with
    | .mark c :: rest =>
      if c = close then return ([a], rest)
      else if c = ',' then
        let (as, rest) ← readItems item close limit rest
        return (a :: as, rest)
      else none
    | _ => none

/-- Any number of items with commas between them, from behind an opening bracket up to the closing
one. -/
def readList (item : List Token → Option (α × List Token)) (close : Char) (limit : Nat)
    (tokens : List Token) : Option (List α × List Token) :=
  if tokens.head? = some (.mark close) then some ([], tokens.tail)
  else readItems item close limit tokens

/-- Items one after another, up to a closing brace or to the end, and at most `limit` of them. -/
def readMany (item : List Token → Option (α × List Token)) :
    Nat → List Token → Option (List α × List Token)
  | 0, tokens => some ([], tokens)
  | limit + 1, tokens =>
    if tokens.head? = none ∨ tokens.head? = some (.mark '\x7d') then some ([], tokens)
    else do
      let (a, rest) ← item tokens
      let (as, rest) ← readMany item limit rest
      return (a :: as, rest)

end Lists

/-- What follows a mark that has to come next. -/
def behind? (c : Char) : List Token → Option (List Token)
  | .mark d :: rest => if d = c then some rest else none
  | _ => none

/-- A member of an object. -/
def readMember (value : List Token → Option (Expr × List Token)) :
    List Token → Option ((String × Expr) × List Token)
  | .word key :: rest => do
    let (e, rest) ← value (← behind? ':' rest)
    return ((key, e), rest)
  | _ => none

/-- A word that is no reserved one. -/
def freeWord? (word : String) : Option String :=
  if word ∈ reservedWords then none else some word

/-- An operation on an object. -/
structure Invocation where
  object : String
  method : String
  args : List Expr

/-- A call of an operation, from the name of the object on. -/
def readInvocation (arg : List Token → Option (Expr × List Token)) (limit : Nat) :
    List Token → Option (Invocation × List Token)
  | .word object :: .mark '.' :: .word method :: rest => do
    let object ← freeWord? object
    let (args, rest) ← readList arg ')' limit (← behind? '(' rest)
    return (⟨object, method, args⟩, rest)
  | _ => none

mutual

/-- The expression at the beginning of some tokens, and what follows it. -/
def readExpr : Nat → List Token → Option (Expr × List Token)
  | 0, _ => none
  | limit + 1, tokens =>
    match tokens with
    | .number value :: rest => some (.number value, rest)
    | .string text :: rest => some (.string text, rest)
    | .mark c :: rest =>
      if c = '[' then do
        let (items, rest) ← readList (readExpr limit) ']' limit rest
        return (.list items, rest)
      else if c = '\x7b' then do
        let (members, rest) ← readList (readMember (readExpr limit)) '\x7d' limit rest
        return (.object members, rest)
      else none
    | .word x :: rest =>
      if x = "new" then do
        let (call, rest) ← readInvocation (readExpr limit) limit rest
        return (.construct call.object call.method call.args, rest)
      else if x = "async" then
        match rest with
        | .mark '(' :: .mark ')' :: .arrow :: .mark '\x7b' :: rest => do
          let (body, rest) ← readMany (readStmt limit) limit rest
          return (.handler body, ← behind? '\x7d' rest)
        | _ => none
      else do return (.name (← freeWord? x), rest)
    | _ => none

/-- The statement at the beginning of some tokens, and what follows it. -/
def readStmt : Nat → List Token → Option (Stmt × List Token)
  | 0, _ => none
  | limit + 1, tokens =>
    match tokens with
    | .word x :: rest =>
      if x = "await" then do
        let (call, rest) ← readInvocation (readExpr limit) limit rest
        return (.call true call.object call.method call.args, ← behind? ';' rest)
      else if rest.head? = some (.mark '=') then do
        let (value, rest) ← readExpr limit rest.tail
        return (.assign (← freeWord? x) value, ← behind? ';' rest)
      else do
        let (call, rest) ← readInvocation (readExpr limit) limit tokens
        return (.call false call.object call.method call.args, ← behind? ';' rest)
    | _ => none

end

/-- The statements of a text, if it is a script. -/
def read (text : String) : Option (List Stmt) := do
  let tokens ← lex text.toList
  match ← readMany (readStmt tokens.length) tokens.length tokens with
  | (statements, []) => return statements
  | _ => none

end SceneScript.Script
