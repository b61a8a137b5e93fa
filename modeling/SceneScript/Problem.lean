import SceneScript.Diagnostic
import SceneScript.Json.Cause
import SceneScript.Workspace

/-!
# What can be wrong with a workspace

* `Problem`: the findings that reading and checking a workspace can make.
* `Problem.diagnostic`: their codes and wordings.
-/

namespace SceneScript

/-- A finding about a workspace. -/
inductive Problem where
  | unreadableDocument (cause : Json.Cause)
  | unreadableBlock (cause : Json.Cause)
  /-- A block stands inside too many inputs. -/
  | tooDeep (block : String) (nesting limit : Nat)
  | duplicateBlock (id : String)
  | duplicateVariableName (name : String)
  | duplicateVariableId (id : String)
  | unknownTag (variableName tag : String)
  | unknownKind (kind : String) (block : Option String)
  /-- A block stands where only a statement, or only an expression, can stand. -/
  | misplaced (block kind : String) (statementExpected : Bool)
  /-- A block stands below an expression. -/
  | belowExpression (block kind : String)
  | unknownInput (block kind input : String)
  /-- An input does not accept the value in it. -/
  | unacceptedTag (block kind input : String) (tag : SocketTag)
  | undeclaredVariable (block field id : String)
  /-- A field wants a variable of another tag. -/
  | wrongVariable (block field : String) (expected : SocketTag) (declared : Variable)

/-- The code, the place and the wording of a finding. -/
def Problem.diagnostic : Problem → Diagnostic
  | unreadableDocument cause =>
    { code := 100, message := "invalid workspace JSON: " ++ cause.message }
  | unreadableBlock cause =>
    { code := 100, message := "invalid block JSON: " ++ cause.message }
  | tooDeep block nesting limit =>
    { code := 101, block := some block
      message := "block is nested " ++ toString nesting ++ " inputs deep (limit " ++
        toString limit ++ ")"
      suggestion := some "move deeply nested blocks into separate top-level scripts" }
  | duplicateBlock id =>
    { code := 200, block := some id
      message := "block id '" ++ id ++ "' is used more than once" }
  | duplicateVariableName name =>
    { code := 201, message := "variable name '" ++ name ++ "' is declared twice" }
  | duplicateVariableId id =>
    { code := 202, message := "variable id '" ++ id ++ "' is declared twice" }
  | unknownTag variableName tag =>
    { code := 203
      message := "variable '" ++ variableName ++ "' has " ++ SocketTag.unknownMessage tag
      suggestion :=
        some "variables must be typed SHAPE, LIGHT, MATERIAL, COORDS, Colour or Number" }
  | unknownKind kind block =>
    { code := 204, block, message := "unknown block kind '" ++ kind ++ "'" }
  | misplaced block kind statementExpected =>
    { code := 205, block := some block
      message := "'" ++ kind ++ "' is not " ++
        (if statementExpected then "a statement" else "an expression") ++ " block" }
  | belowExpression block kind =>
    { code := 205, block := some block
      message := "expression block '" ++ kind ++ "' cannot have a next block" }
  | unknownInput block kind input =>
    { code := 206, block := some block
      message := "'" ++ kind ++ "' has no input named '" ++ input ++ "'" }
  | unacceptedTag block kind input tag =>
    { code := 300, block := some block
      message := "input '" ++ input ++ "' of '" ++ kind ++ "' does not accept " ++ tag.name }
  | undeclaredVariable block field id =>
    { code := 301, block := some block
      message := "field '" ++ field ++ "' refers to undeclared variable '" ++ id ++ "'" }
  | wrongVariable block field expected declared =>
    { code := 302, block := some block
      message := "field '" ++ field ++ "' expects a " ++ expected.name ++ " variable, '" ++
        declared.name ++ "' is " ++ declared.tag.name
      suggestion := some ("pick a " ++ expected.name ++ " variable") }

end SceneScript
