/-!
# Operator precedence

How tightly the outermost operator of a piece of code binds. Code is put in parentheses when it
stands in a context that binds at least as tightly as itself.

* `Precedence`, `Precedence.level`: the operators, from the tightest to none.
* `Precedence.needsParens`, `Precedence.wrap`: when parentheses are written.
* `Fragment`: the code of one block.
-/

namespace SceneScript

/-- The outermost operator of a piece of code, or of the context in which it stands. -/
inductive Precedence where
  | atomic
  | new
  | member
  | functionCall
  | await
  | conditional
  | assignment
  | comma
  /-- No operator: an argument or a statement. -/
  | none
deriving DecidableEq, Repr, Inhabited

namespace Precedence

/-- Every precedence, from the tightest on. -/
def all : List Precedence :=
  [atomic, new, member, functionCall, await, conditional, assignment, comma, none]

/-- The level of a precedence; a lower one binds more tightly. -/
def level : Precedence → Nat
  | atomic => 0
  | new => 11
  | member => 12
  | functionCall => 20
  | await => 48
  | conditional => 150
  | assignment => 160
  | comma => 180
  | none => 990

/-- The spelling of a precedence. -/
def name : Precedence → String
  | atomic => "atomic"
  | new => "new"
  | member => "member"
  | functionCall => "function_call"
  | await => "await"
  | conditional => "conditional"
  | assignment => "assignment"
  | comma => "comma"
  | none => "none"

/-- Code of precedence `inner` is put in parentheses where `outer` surrounds it. Equal ones need no
parentheses if there is no operator at all. -/
def needsParens (inner outer : Precedence) : Bool :=
  if inner.level < outer.level then false
  else !(outer == inner && (outer == atomic || outer == none))

/-- Code as it stands in a context. -/
def wrap (code : String) (inner outer : Precedence) : String :=
  if code.isEmpty || !inner.needsParens outer then code else "(" ++ code ++ ")"

end Precedence

/-- The code of one block; it is empty if the block contributes nothing. -/
inductive Fragment where
  | statement (code : String)
  | value (code : String) (precedence : Precedence)
deriving DecidableEq, Inhabited

namespace Fragment

/-- The text of a fragment. -/
def code : Fragment → String
  | statement code => code
  | value code _ => code

/-- The block contributes nothing. -/
def isEmpty (f : Fragment) : Bool := f.code.isEmpty

/-- The outermost operator; a statement has none. -/
def precedence : Fragment → Precedence
  | statement _ => .none
  | value _ precedence => precedence

end Fragment

end SceneScript
