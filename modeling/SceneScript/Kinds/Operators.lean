import SceneScript.Registry

/-!
# Rules for operators

Rules for kinds that a registry can be extended with: expressions with an operator around their
inputs, and a statement that shows a value. An empty input is written as `_`.
-/

namespace SceneScript.Rule

/-- A choice between two values. -/
def conditional : Rule := .value do
  let a ← Plan.valueOr "A" .conditional "_"
  let b ← Plan.valueOr "B" .conditional "_"
  let c ← Plan.valueOr "C" .conditional "_"
  return (a ++ " ? " ++ b ++ " : " ++ c, .conditional)

/-- A member of a value, by its name. -/
def member : Rule := .value do
  let a ← Plan.require "A" .member
  let name ← Plan.textIn "NAME"
  return (a ++ "." ++ name, .member)

/-- A function applied to a value. -/
def application : Rule := .value do
  let a ← Plan.valueOr "A" .none "_"
  return ("f(" ++ a ++ ")", .functionCall)

/-- A value shown together with a text, a number and a chain of statements. -/
def display : Rule := .statement do
  let a ← Plan.valueOr "A" .assignment "_"
  let body ← Plan.bodyOf "DO"
  let text ← Plan.literal "TEXT"
  let n ← Plan.numberIn "N"
  return "show(" ++ a ++ ", " ++ text ++ ", " ++ n ++ ") \x7b" ++ body ++ "\x7d"

end SceneScript.Rule
