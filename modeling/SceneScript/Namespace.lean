import SceneScript.Identifier
import SceneScript.Workspace

/-!
# Namespaces

A field refers to a variable by its id. A namespace gives every id an identifier of its own, which
is neither a reserved word nor the runtime namespace, and hands out new names on demand. Declared
variables get their identifiers first, in the order of their declaration, so these do not depend on
what is asked for later.

* `probe?`, `firstFree`: the first candidate that is not in use.
* `Namespace.ofVariables`: the namespace of declared variables.
* `Namespace.resolve`, `Namespace.claim`: the identifier of an id, a new name.
* `Namespace.uniqueName`, `Namespace.firstOfTag?`: what the editor proposes.
-/

namespace SceneScript

/-! ## Probing -/

/-- How many candidates a search can look at. Its counter has 32 bits, one of them for the sign, and
must hold the number that comes after the candidate. -/
def maxLooks : Nat := Nat.pow 2 31 - 2

/-- The first of `candidate n`, `candidate (n + 1)` and so on that is not in use, if that many looks
find one. -/
def probe? (used : List String) (candidate : Nat → String) : Nat → Nat → Option String
  | 0, _ => none
  | looks + 1, n =>
    if used.contains (candidate n) then probe? used candidate looks (n + 1) else some (candidate n)

/-- The first candidate from number zero on that is not in use. After all the looks that its counter
allows, the search would overflow. Here it goes on with larger numbers, so that there is a name in
every case: one look more than there are names in use finds it. -/
def firstFree (used : List String) (candidate : Nat → String) : String :=
  match probe? used candidate maxLooks 0 with
  | some name => name
  | none => (probe? used candidate (used.length + 1) 0).getD (candidate 0)

/-- A name made of a stem and a number. -/
def numbered (stem : String) (n : Nat) : String := stem ++ "_" ++ toString n

/-- The names `stem_1`, `stem_2` and so on. -/
def freshCandidate (stem : String) (n : Nat) : String := numbered stem (n + 1)

/-- The names `base`, `base_2`, `base_3` and so on. -/
def distinctCandidate (base : String) : Nat → String
  | 0 => base
  | n + 1 => numbered base (n + 2)

/-! ## Namespaces -/

/-- The identifiers in use. -/
structure Namespace where
  /-- The declared variables. -/
  declared : List Variable
  /-- The name of the runtime namespace. -/
  runtime : String
  /-- Ids, or other keys of fields, with their identifiers; the latest entry of a key counts. -/
  bound : List (String × String) := []
  /-- All identifiers handed out. -/
  taken : List String := []

namespace Namespace

/-- The names that are never handed out. -/
def reserved (ns : Namespace) : List String := ns.runtime :: reservedWords

/-- The names of the declared variables. -/
def declaredNames (ns : Namespace) : List String := ns.declared.map Variable.name

/-- The first variable of a tag. -/
def firstOfTag? (ns : Namespace) (tag : SocketTag) : Option Variable :=
  ns.declared.find? (·.tag == tag)

/-- The first name of a stem that no declared variable has. -/
def uniqueName (ns : Namespace) (stem : String) : String :=
  firstFree ns.declaredNames (freshCandidate stem)

/-- The first name of a stem that is free altogether; from then on it is taken. -/
def claim (ns : Namespace) (stem : String) : String × Namespace :=
  let name := firstFree (ns.declaredNames ++ ns.taken ++ ns.reserved) (freshCandidate stem)
  (name, { ns with taken := name :: ns.taken })

/-- Gives a key an identifier made from a name. -/
def bind (ns : Namespace) (key name : String) : String × Namespace :=
  let identifier := firstFree (ns.taken ++ ns.reserved) (distinctCandidate (legalize name))
  (identifier,
    { ns with bound := (key, identifier) :: ns.bound, taken := identifier :: ns.taken })

/-- A key has an identifier already. -/
def binds (ns : Namespace) (key : String) : Bool := (ns.bound.lookup key).isSome

/-- The identifier of a key. A key that belongs to no variable gets one made from itself. -/
def resolve (ns : Namespace) (key : String) : String × Namespace :=
  match ns.bound.lookup key with
  | some identifier => (identifier, ns)
  | none => ns.bind key key

/-- The namespace of declared variables. -/
def ofVariables (declared : List Variable) (runtime : String) : Namespace :=
  declared.foldl (fun ns v => (ns.bind v.id v.name).2) { declared, runtime }

end Namespace

end SceneScript
