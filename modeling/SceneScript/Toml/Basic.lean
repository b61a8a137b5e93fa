import SceneScript.Double.Basic

/-!
# TOML values

A document is a table of names and values. Headers and dotted keys lead to tables inside tables and
make those that are missing. How a table came about decides what can still be added to it: a table
between braces is complete, a table with a header of its own cannot be reached by dotted keys, and
only a table that longer headers have led through can still get a header.

* `Toml`, `Toml.Entries`: a value, and the names and values of a table.
* `Toml.Entries.give?`: the value of a key is added.
* `Toml.Entries.openTable?`, `Toml.Entries.openElement?`: a header is added.
-/

namespace SceneScript

/-- How a table came about. -/
inductive Toml.Origin where
  /-- It stands between braces. -/
  | inline
  /-- It is the document or has a header. -/
  | header
  /-- Headers lead through it. -/
  | implied
  /-- Dotted keys lead through it. -/
  | dotted
deriving DecidableEq

/-- A value. -/
inductive Toml where
  | string (value : String)
  | bool (value : Bool)
  | integer (value : Int)
  | float (value : Double)
  /-- A date, a time of day or both, as it is written. -/
  | moment (spelling : String)
  | list (items : List Toml)
  | table (origin : Toml.Origin) (entries : List (String × Toml))
  /-- The tables of a repeated header, the last one first. -/
  | tables (elements : List (List (String × Toml)))

namespace Toml

/-- The names and values of a table, in the order of their first mention. -/
abbrev Entries : Type := List (String × Toml)

/-- The names of a key: those of the tables that it leads through, and the last one. -/
structure Key where
  path : List String
  name : String
deriving DecidableEq

/-- A path that makes tables of the first origin can lead through a table of the second one. -/
def Origin.passes : Origin → Origin → Bool
  | _, inline => false
  | dotted, header => false
  | _, _ => true

namespace Entries

/-- Replaces what a name stands for, where `none` is a name that is not in use. -/
def alter? (name : String) (f : Option Toml → Option Toml) : Entries → Option Entries
  | [] => (f none).map fun value => [(name, value)]
  | (other, value) :: rest =>
    if other = name then (f (some value)).map fun value => (name, value) :: rest
    else (alter? name f rest).map ((other, value) :: ·)

/-- Changes the table at the end of a path. Tables that are missing on the way get the origin
`passing`; a repeated header stands for its last table. -/
def descend? (passing : Origin) (f : Origin → Entries → Option Entries) :
    List String → Origin → Entries → Option Entries
  | [], origin, entries => f origin entries
  | name :: path, _, entries => entries.alter? name fun
    | none => (descend? passing f path passing []).map (.table passing)
    | some (.table origin inner) =>
      if passing.passes origin then (descend? passing f path origin inner).map (.table origin)
      else none
    | some (.tables (last :: earlier)) =>
      (descend? passing f path .header last).map fun last => .tables (last :: earlier)
    | some _ => none

/-- Adds a name that is not in use. -/
def insert? (entries : Entries) (name : String) (value : Toml) : Option Entries :=
  entries.alter? name fun
    | none => some value
    | some _ => none

/-- Adds the value of a key. The last table of a dotted key has to come from dotted keys. -/
def give? (entries : Entries) (key : Key) (value : Toml) : Option Entries :=
  descend? .dotted
    (fun origin inner =>
      if key.path.isEmpty || origin = .dotted then inner.insert? key.name value else none)
    key.path .header entries

/-- Gives a table its header. -/
def openTable? (entries : Entries) (key : Key) : Option Entries :=
  descend? .implied
    (fun _ inner => inner.alter? key.name fun
      | none => some (.table .header [])
      | some (.table .implied content) => some (.table .header content)
      | some _ => none)
    key.path .header entries

/-- Adds a table to those of a repeated header. -/
def openElement? (entries : Entries) (key : Key) : Option Entries :=
  descend? .implied
    (fun _ inner => inner.alter? key.name fun
      | none => some (.tables [[]])
      | some (.tables elements) => some (.tables ([] :: elements))
      | some _ => none)
    key.path .header entries

/-- Adds the value of a key to the table that a header has opened. -/
def giveAt? (entries : Entries) (opened : List String) (key : Key) (value : Toml) :
    Option Entries :=
  descend? .implied (fun _ inner => inner.give? key value) opened .header entries

end Entries

end Toml

end SceneScript
