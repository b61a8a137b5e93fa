/-!
# Lines and indentation

A line ends at a line feed, together with a carriage return right before it; what follows the last
line feed is a line only if it is not empty.

* `splitLines`, `lines`: the lines of a text.
* `indent`: every line that is not empty moved to the right.
-/

namespace SceneScript.Text

/-- The lines of a list of characters, without their ends. -/
def splitLines : List Char → List (List Char)
  | [] => []
  | '\n' :: rest => [] :: splitLines rest
  | '\r' :: '\n' :: rest => [] :: splitLines rest
  | c :: rest =>
    match splitLines rest with
    | [] => [[c]]
    | line :: more => (c :: line) :: more

/-- The lines of a text, without their ends. -/
def lines (text : String) : List String :=
  (splitLines text.toList).map String.ofList

/-- The text with `margin` before each of its lines that is not empty. -/
def indent (margin text : String) : String :=
  String.intercalate "\n" ((lines text).map fun line => if line.isEmpty then "" else margin ++ line)

end SceneScript.Text
