/-!
# Arguments of the command line

* `Command`: what can be asked for.
* `Arguments.parse?`: the command of a list of arguments.

An option can be given its value behind an equals sign, as the next argument, or, if it is a letter,
right behind the letter. Letters can share a hyphen. Everything behind `--` is an operand, and a
hyphen alone always is.
-/

namespace SceneScript

/-- What can be asked for. -/
inductive Command where
  | version
  /-- Compile a workspace; the script goes to the output file, or else to standard output. -/
  | compile (file : String) (output config : Option String) (json : Bool)
  | check (file : String)
  /-- Print the block definitions, or the toolbox. -/
  | blocks (toolbox : Bool)
  /-- Print the initial field values of a kind. -/
  | defaults (file kind : String)
deriving DecidableEq

namespace Arguments

/-- An option, with the letter by which it can be given too. -/
structure Flag where
  name : String
  letter : Option Char := none
  takesValue : Bool := false
  /-- The option can be given more than once. -/
  repeatable : Bool := false
  /-- Nothing behind the letter of the option counts. -/
  isFinal : Bool := false

/-- The options and operands that have been given. -/
structure Given where
  flags : List (String × String) := []
  operands : List String := []

namespace Given

/-- The option has been given. -/
def has (g : Given) (name : String) : Bool := (g.flags.lookup name).isSome

/-- Adds an option. -/
def add? (g : Given) (flag : Flag) (value : String) : Option Given :=
  if g.has flag.name && !flag.repeatable then none
  else some { g with flags := (flag.name, value) :: g.flags }

end Given

/-- The value of an option as the next argument. -/
def nextValue? : List String → Option (String × List String)
  | [] => none
  | arg :: rest => if arg.startsWith "-" && arg ≠ "-" then none else some (arg, rest)

/-- Letters that share a hyphen. The first one that takes a value takes what is left of them, or
the next argument. The answer has the arguments that are left. -/
def letters? (known : List Flag) (rest : List String) :
    List Char → Given → Option (Given × List String)
  | [], g => some (g, rest)
  | c :: more, g => do
    let flag ← known.find? (·.letter == some c)
    if flag.takesValue then
      match more with
      | [] =>
        let (value, rest) ← nextValue? rest
        return (← g.add? flag value, rest)
      | '=' :: value => return (← g.add? flag (String.ofList value), rest)
      | value => return (← g.add? flag (String.ofList value), rest)
    else if flag.isFinal then return (← g.add? flag "", rest)
    else letters? known rest more (← g.add? flag "")

/-- An option by its name, with what stands behind an equals sign. -/
def long? (known : List Flag) (rest : List String) (text : List Char) (g : Given) :
    Option (Given × List String) := do
  let name := String.ofList (text.takeWhile (· ≠ '='))
  let flag ← known.find? (·.name == name)
  match text.dropWhile (· ≠ '='), flag.takesValue with
  | _ :: value, true => return (← g.add? flag (String.ofList value), rest)
  | _ :: _, false => none
  | [], true =>
    let (value, rest) ← nextValue? rest
    return (← g.add? flag value, rest)
  | [], false => return (← g.add? flag "", rest)

/-- One argument that is an option, with the arguments behind it; `none` if it is an operand. -/
def option? (known : List Flag) (arg : String) (rest : List String) (g : Given) :
    Option (Option (Given × List String)) :=
  match arg.toList with
  | '-' :: '-' :: text => some (long? known rest text g)
  | '-' :: c :: more => some (letters? known rest (c :: more) g)
  | _ => none

/-- All options and operands of a list of arguments. Each step takes at least one argument. -/
def collect? (known : List Flag) : Nat → List String → Given → Option Given
  | 0, _, g | _, [], g => some g
  | fuel + 1, arg :: rest, g =>
    if arg = "--" then some { g with operands := g.operands ++ rest }
    else
      match option? known arg rest g with
      | none => collect? known fuel rest { g with operands := g.operands ++ [arg] }
      | some none => none
      | some (some (g, rest)) => collect? known fuel rest g

/-- How much is logged; can be given anywhere. -/
def verbose : Flag := { name := "verbose", letter := some 'v', repeatable := true }

/-- The options of `compile`. -/
def compileFlags : List Flag :=
  [verbose, { name := "output", letter := some 'o', takesValue := true },
    { name := "config", letter := some 'c', takesValue := true }, { name := "json" }]

/-- A path has at least one character. -/
def path? (text : String) : Option String := if text.isEmpty then none else some text

/-- The path given with an option. -/
def pathOption? (g : Given) (name : String) : Option (Option String) :=
  match g.flags.lookup name with
  | none => some none
  | some text => (path? text).map some

/-- The command of a name and of the arguments behind it. -/
def command? (name : String) (args : List String) : Option Command := do
  let given (known : List Flag) := collect? known args.length args {}
  if name = "compile" then
    let g ← given compileFlags
    let [file] := g.operands | none
    return .compile (← path? file) (← pathOption? g "output") (← pathOption? g "config")
      (g.has "json")
  else if name = "check" then
    let g ← given [verbose]
    let [file] := g.operands | none
    return .check (← path? file)
  else if name = "blocks" then
    let g ← given [verbose, { name := "toolbox" }]
    let [] := g.operands | none
    return .blocks (g.has "toolbox")
  else if name = "defaults" then
    let g ← given [verbose]
    let [file, kind] := g.operands | none
    return .defaults (← path? file) kind
  else none

/-- The options that can be given before the name of a command. -/
def leadingFlags : List Flag :=
  [verbose, { name := "version", letter := some 'V', isFinal := true }]

/-- The command of a list of arguments. -/
def parse? : List String → Option Command
  | [] => none
  | arg :: rest =>
    match option? leadingFlags arg [] {} with
    | none => command? arg rest
    | some none => none
    | some (some (g, _)) => if g.has "version" then some .version else parse? rest

end Arguments

end SceneScript
