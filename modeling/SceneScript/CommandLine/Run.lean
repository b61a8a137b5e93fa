import SceneScript.CommandLine.Arguments
import SceneScript.CommandLine.Config
import SceneScript.Report

/-!
# Running commands

A command reads files or standard input, and yields what is to be printed and at most one file to
be written. Findings about a workspace are printed on the error channel, before the reason of a
failure. The log is written to the same channel, while the workspace is linked and its script is
generated, and so before anything is reported.

* `Source`, `Surroundings`: what can be read, and the files and the standard input.
* `Outcome`: what a command yields, with its exit code and what it prints.
* `Command.run`, `runArguments`: running a command, or a list of arguments.
-/

namespace SceneScript

/-- What a path has to read. -/
inductive Source where
  | text (text : String)
  /-- The standard input, by whatever name. -/
  | stdin
deriving DecidableEq

/-- The files and the standard input. -/
structure Surroundings where
  /-- What a path has to read, or the reason why it cannot be read. -/
  read : String → Except String Source
  /-- The reason why a text cannot be written to a path, if there is one. -/
  obstacle : String → String → Option String
  /-- The standard input, or the reason why it cannot be read. -/
  stdin : Except String String

/-- Why a command fails. -/
inductive Failure where
  /-- The arguments make no command. -/
  | usage
  | cannotRead (path reason : String)
  | cannotWrite (path reason : String)
  | badConfig (path : String) (fault : Config.Fault)
  /-- The workspace has errors; they are printed already. -/
  | errors
  | noProposals (cause : NoProposals)
deriving DecidableEq

namespace Failure

/-- The exit code of a failure. -/
def code : Failure → Nat
  | usage => 2
  | _ => 1

/-- The wording of a failure, if it has one. -/
def message? : Failure → Option String
  | usage => some "the arguments make no command"
  | cannotRead path reason => some ("cannot read '" ++ path ++ "': " ++ reason)
  | cannotWrite path reason => some ("cannot write '" ++ path ++ "': " ++ reason)
  | badConfig path fault => some ("invalid config '" ++ path ++ "': " ++ fault.message)
  | errors => none
  | noProposals cause => some cause.message

/-- What a failure prints. -/
def text (f : Failure) : String :=
  match f.message? with
  | none => ""
  | some message => "error: " ++ message ++ "\n"

end Failure

/-- What a command that succeeds yields. -/
structure Output where
  stdout : String := ""
  /-- A path, and the text to be written there. -/
  file : Option (String × String) := none
deriving DecidableEq

/-- What a command yields. -/
structure Outcome where
  /-- The events on the way. -/
  log : List Event := []
  /-- What is printed on the error channel before a failure. -/
  notes : String := ""
  result : Except Failure Output

namespace Outcome

/-- The exit code. -/
def code (o : Outcome) : Nat :=
  match o.result with
  | .ok _ => 0
  | .error failure => failure.code

/-- What is printed on the standard channel. -/
def stdout (o : Outcome) : String :=
  match o.result with
  | .ok output => output.stdout
  | .error _ => ""

/-- What is reported on the error channel. -/
def report (o : Outcome) : String :=
  match o.result with
  | .ok _ => o.notes
  | .error failure => o.notes ++ failure.text

/-- What is printed on the error channel: the log, and then the report. -/
def stderr (o : Outcome) (logger : Logger) : String := logger.written o.log ++ o.report

/-- The file to be written. -/
def file (o : Outcome) : Option (String × String) :=
  match o.result with
  | .ok output => output.file
  | .error _ => none

end Outcome

/-! ## Parts of commands -/

/-- The text of a source. -/
def Surroundings.textOf (s : Surroundings) : Source → Except String String
  | .text text => .ok text
  | .stdin => s.stdin

/-- The surroundings after a source has been read: nothing is left of the standard input. -/
def Surroundings.after (s : Surroundings) : Source → Surroundings
  | .text _ => s
  | .stdin => { s with stdin := .ok "" }

/-- The source that a path leads to, with its text. -/
def Surroundings.source (s : Surroundings) (path : String) : Except Failure (Source × String) :=
  Except.mapError (.cannotRead path) do
    let source ← s.read path
    return (source, ← s.textOf source)

/-- The text of an input file; a hyphen stands for standard input. -/
def Surroundings.input (s : Surroundings) (path : String) : Except Failure String :=
  if path = "-" then s.stdin.mapError (.cannotRead path) else (s.source path).map Prod.snd

/-- The options of a configuration file, or the default ones, and the surroundings after it has been
read. -/
def Surroundings.options (s : Surroundings) :
    Option String → Except Failure (Options × Surroundings)
  | none => .ok ({}, s)
  | some path => do
    let (source, text) ← s.source path
    let options ← (Config.ofText text).mapError (.badConfig path)
    return (options, s.after source)

/-- The lines that show findings, with suggestions, and the number of errors that are not shown. -/
def Diagnostics.notes (c : Diagnostics) : String :=
  let shown := c.stored.map fun d =>
    d.line ++ "\n" ++
      match d.suggestion with
      | some suggestion => "  help: " ++ suggestion ++ "\n"
      | none => ""
  String.join shown ++
    if c.dropped = 0 then "" else "... and " ++ toString c.dropped ++ " more error(s)\n"

/-- Puts a text into the output file, or prints it. -/
def Surroundings.deliver (s : Surroundings) (text : String) :
    Option String → Except Failure Output
  | none => .ok { stdout := text ++ "\n" }
  | some path =>
    match s.obstacle path text with
    | some reason => .error (.cannotWrite path reason)
    | none => .ok { file := some (path, text) }

/-! ## Commands -/

/-- Compiles a workspace. In JSON the result is shown even if there is no script. -/
def runCompile (s : Surroundings) (file : String) (output config : Option String) (json : Bool) :
    Outcome :=
  let sources : Except Failure (Options × String) := do
    let (options, s) ← s.options config
    let text ← s.input file
    return (options, text)
  match sources with
  | .error failure => { result := .error failure }
  | .ok (options, text) =>
    let c := compile options text
    let log := compileLog options text
    let notes := c.diagnostics.notes
    if json then { log, notes, result := s.deliver c.toJson.pretty output }
    else
      match c.script with
      | some script => { log, notes, result := s.deliver script output }
      | none => { log, notes, result := .error .errors }

/-- Shows the findings about a workspace. -/
def runCheck (s : Surroundings) (file : String) : Outcome :=
  match s.input file with
  | .error failure => { result := .error failure }
  | .ok text =>
    let c := check text
    let log := checkLog text
    if c.hasErrors then { log, notes := c.notes, result := .error .errors }
    else
      { log
        notes := c.notes ++ "ok (" ++ toString c.totalWarnings ++ " warning(s))\n"
        result := .ok {} }

/-- Shows the initial field values of a kind. -/
def runDefaults (s : Surroundings) (file kind : String) : Outcome :=
  match s.input file with
  | .error failure => { result := .error failure }
  | .ok text =>
    { log := checkLog text
      result := do
        let proposals ← (newBlockFields text kind).mapError .noProposals
        return { stdout := (proposalsJson proposals).pretty ++ "\n" } }

/-- The version of the program. -/
def version : String := "0.1.1"

/-- The name and the version of the program. -/
def versionLine : String := "blockscene " ++ version

/-- Runs a command. -/
def Command.run (s : Surroundings) : Command → Outcome
  | version => { result := .ok { stdout := versionLine ++ "\n" } }
  | compile file output config json => runCompile s file output config json
  | check file => runCheck s file
  | blocks toolbox =>
    let listing :=
      if toolbox then Toolbox.contents .standard else Toolbox.definitions .standard
    { result := .ok { stdout := listing.pretty ++ "\n" } }
  | defaults file kind => runDefaults s file kind

/-- Runs a list of arguments. -/
def runArguments (s : Surroundings) (args : List String) : Outcome :=
  match Arguments.parse? args with
  | some command => command.run s
  | none => { result := .error .usage }

end SceneScript
