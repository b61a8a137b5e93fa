import SceneScript.Double.Layout
import SceneScript.Text.Quoted

/-!
# Literals of a script

* `Literal.number`: a number.
* `Literal.descriptor`: the description of a thing to be put into the scene.
-/

namespace SceneScript.Literal

/-- Numbers are written with all digits. -/
def layout : Layout where
  tie := .up
  tail := ""
  positional := fun _ => true

/-- Whole numbers below this bound are written digit by digit. -/
def wholeBound : Nat := Nat.pow 10 15

/-- The literal of a number. A script has no infinite numbers and no negative zero; zero stands for
them. -/
def number (x : Double) : String :=
  if !x.isFinite then "0"
  else if x.isWhole && x.units < wholeBound * Double.one then
    let n : Int := x.units / Double.one
    toString (if x.isNegative then -n else n)
  else layout.write x

/-- The list of one thing, with its id, its type and its properties. -/
def descriptor (id type : String) (props : List (String × String)) : String :=
  let body :=
    if props.isEmpty then "\x7b\x7d"
    else
      "\x7b " ++ String.intercalate ", " (props.map fun prop => prop.1 ++ ": " ++ prop.2) ++ " \x7d"
  "[\x7b id: " ++ Text.quote id ++ ", type: " ++ Text.quote type ++ ", props: " ++ body ++ "\x7d]"

end SceneScript.Literal
