import SceneScript.Literal
import SceneScript.Precedence

/-!
# Plans

The rule of a kind of block says how its code is put together. A plan asks, step by step, for the
parts that the code is made of: the code of an input, the identifier in a field, a call. It sees
nothing else of the program, so what holds for each step holds for every rule.

* `Plan`: what a rule asks for, and the code that it gives in the end.
* `Plan.require`, `Plan.valueOr`, `Plan.literal`, `Plan.describe`: the usual steps.
-/

namespace SceneScript

/-- The steps to a result. -/
inductive Plan (α : Type) where
  | done (result : α)
  /-- The block contributes nothing. -/
  | nothing
  /-- The code of the block in an input, as it stands in a context. -/
  | value (input : String) (outer : Precedence) (next : Option String → Plan α)
  /-- The code of the chain in an input, indented. -/
  | body (input : String) (next : String → Plan α)
  /-- The identifier of the variable in a field. -/
  | identifier (field : String) (next : String → Plan α)
  /-- The text in a field. -/
  | text (field : String) (next : String → Plan α)
  /-- The number in a field, as a literal. -/
  | number (field : String) (next : String → Plan α)
  /-- A call of the operation of the block's kind. -/
  | call (args : List String) (next : String → Plan α)
  /-- The id and the kind of the block. -/
  | owner (next : String → String → Plan α)

namespace Plan

variable {α β : Type}

/-- The steps of a plan, and then those that its result asks for. -/
def bind (plan : Plan α) (f : α → Plan β) : Plan β :=
  match plan with
  | done result => f result
  | nothing => nothing
  | value input outer next => value input outer fun code => (next code).bind f
  | body input next => body input fun code => (next code).bind f
  | identifier field next => identifier field fun name => (next name).bind f
  | text field next => text field fun s => (next s).bind f
  | number field next => number field fun n => (next n).bind f
  | call args next => call args fun code => (next code).bind f
  | owner next => owner fun id kind => (next id kind).bind f

instance : Monad Plan where
  pure := done
  bind := bind

/-- The code in an input; without it the block contributes nothing. -/
def require (input : String) (outer : Precedence) : Plan String :=
  value input outer fun
    | some code => done code
    | none => nothing

/-- The code in an input, or something else if there is none. -/
def valueOr (input : String) (outer : Precedence) (default : String) : Plan String :=
  value input outer fun code => done (code.getD default)

/-- The code in an input, if there is some. -/
def value? (input : String) (outer : Precedence) : Plan (Option String) :=
  value input outer done

/-- The code of the chain in an input. -/
def bodyOf (input : String) : Plan String := body input done

/-- The identifier of the variable in a field. -/
def identifierIn (field : String) : Plan String := identifier field done

/-- The text in a field. -/
def textIn (field : String) : Plan String := text field done

/-- The text in a field as a literal. -/
def literal (field : String) : Plan String := text field fun s => done (Text.quote s)

/-- The number in a field as a literal. -/
def numberIn (field : String) : Plan String := number field done

/-- A call of the operation of the block's kind. -/
def callWith (args : List String) : Plan String := call args done

/-- A statement that calls the operation of the block's kind. -/
def perform (args : List String) : Plan String := call args fun code => done (code ++ ";")

/-- The block described as a thing of some type. -/
def describe (type : String) (props : List (String × String)) : Plan (String × Precedence) :=
  owner fun id _ => done (Literal.descriptor id type props, .atomic)

end Plan

end SceneScript
