/-!
# Socket tags

Every value that a block produces carries a tag, and an input says which tags it takes.

* `SocketTag`: the six tags, with their spelling.
* `TagSet`: what an input accepts.
-/

namespace SceneScript

/-- What kind of value passes through a socket. -/
inductive SocketTag where
  | number
  | colour
  | coords
  | shape
  | light
  | material
deriving DecidableEq, Repr, Inhabited

namespace SocketTag

/-- Every tag. -/
def all : List SocketTag := [number, colour, coords, shape, light, material]

/-- The spelling of a tag. -/
def name : SocketTag → String
  | number => "Number"
  | colour => "Colour"
  | coords => "COORDS"
  | shape => "SHAPE"
  | light => "LIGHT"
  | material => "MATERIAL"

/-- The tag of a spelling. -/
def ofName? (name : String) : Option SocketTag :=
  all.find? (·.name == name)

/-- The complaint about a spelling that is no tag. -/
def unknownMessage (name : String) : String :=
  "unknown socket tag '" ++ name ++ "'"

end SocketTag

/-- The tags that an input accepts. -/
inductive TagSet where
  | any
  | only (tags : List SocketTag)
deriving DecidableEq, Repr, Inhabited

/-- A tag is accepted. -/
def TagSet.accepts : TagSet → SocketTag → Bool
  | .any, _ => true
  | .only tags, tag => tags.contains tag

end SceneScript
