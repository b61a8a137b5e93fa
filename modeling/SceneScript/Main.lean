import SceneScript.CommandLine.Folder

/-!
# The program

Reads the files that the arguments name, runs the command on them, and then prints and writes what
it yields.
-/

namespace SceneScript

/-- The number by which the file system reports an error. It can come with a negative sign. -/
def errorCode : IO.Error → Nat
  | .noFileOrDirectory _ code _ | .inappropriateType _ code _ | .invalidArgument _ code _
  | .resourceExhausted _ code _ | .otherError code _ => min code.toNat (-code).toNat
  | _ => 0

/-- The reason of a failed access to a file. -/
def accessReason (e : IO.Error) : String :=
  match PathFault.ofCode? (errorCode e) with
  | some fault => fault.message
  | none => toString e

/-- The outcome of an access to a file. -/
def attempt {α : Type} (access : IO α) : IO (Except String α) := do
  try
    return .ok (← access)
  catch e =>
    return .error (accessReason e)

/-- The files that a command reads, in that order; a hyphen for the standard input can only be the
last one. -/
def Command.inputs : Command → List String
  | .compile file _ config _ => config.toList ++ [file]
  | .check file | .defaults file _ => [file]
  | .version | .blocks _ => []

/-- The path is a name of the standard input. -/
def isStdin (path : String) : Bool :=
  match Folder.locate ⟨[]⟩ path with
  | .ok (.device .stdin) => path.startsWith "/"
  | _ => false

/-- The surroundings of a command, with the files that it reads. -/
def gather (command : Command) : IO Surroundings := do
  let sources ← command.inputs.mapM fun (path : String) => do
    if isStdin path then return (path, .ok Source.stdin)
    else return (path, (← attempt (IO.FS.readFile path)).map Source.text)
  let fromStdin := command.inputs.getLast? = some "-" || command.inputs.any isStdin
  let stdin ← if fromStdin then attempt ((← IO.getStdin).readToEnd) else pure (.ok "")
  return {
    read := fun path => (sources.lookup path).getD (.error "")
    obstacle := fun _ _ => none
    stdin }

/-- Runs a command and writes its file. If that fails, the command fails. -/
def execute (command : Command) : IO Outcome := do
  let s ← gather command
  let outcome := command.run s
  match outcome.file with
  | none => return outcome
  | some (path, text) =>
    match ← attempt (IO.FS.writeFile path text) with
    | .ok () => return outcome
    | .error reason => return command.run { s with obstacle := fun _ _ => some reason }

/-- Runs the command of the arguments and prints what it yields. -/
def runProgram (args : List String) : IO UInt32 := do
  let outcome ←
    match Arguments.parse? args with
    | some command => execute command
    | none => pure { result := .error .usage }
  (← IO.getStdout).putStr outcome.stdout
  (← IO.getStderr).putStr (outcome.stderr .plain)
  return outcome.code.toUInt32

end SceneScript

/-- The program. -/
def main (args : List String) : IO UInt32 := SceneScript.runProgram args
