import SceneScript.CommandLine.Place
import SceneScript.CommandLine.Run

/-!
# Folders

A folder with files, as the surroundings of a command.

* `Folder.step`, `Folder.locate`: one step of a path, and the place where a path leads.
* `Folder.read`, `Folder.target`: reading a file, and where a text would be written.
* `Folder.surroundings`: the folder as the surroundings of a command.
* `Folder.printed`, `Folder.reported`, `Folder.made?`: what a command leaves behind.
-/

namespace SceneScript

/-- The names and texts of the files in a folder. The name of a file in a subfolder is the path to
it. -/
structure Folder where
  files : List (String × String)

namespace Folder

/-- The names on the way to a file, and its text. -/
def entries (d : Folder) : List (List String × String) :=
  d.files.map fun file => ((Path.ofText file.1).names.filter (· ≠ "."), file.2)

/-- What stands at the end of some names. -/
def inside? (d : Folder) (path : List String) : Option Place :=
  if d.entries.any (·.1 == path) then some (.file path)
  else if d.entries.any fun file => path.isPrefixOf file.1 then some (.inner path)
  else none

/-- What has a name in a place. -/
def find? (d : Folder) (place : Place) (name : String) : Option Place :=
  match place with
  | .inner path => d.inside? (path ++ [name])
  | .outer path => Place.landmark? (path ++ [name])
  | _ => none

/-- One step from a place. -/
def step (d : Folder) (place : Place) (name : String) : Except PathFault Place :=
  if !place.isFolder then .error .notFolder
  else if name = "." then .ok place
  else if name = ".." then .ok place.parent
  else if Path.maxNameSize < name.utf8ByteSize then .error .tooLong
  else
    match d.find? place name with
    | some place => .ok place
    | none => .error .missing

/-- The place at the end of some names. -/
def walk (d : Folder) (start : Place) (names : List String) : Except PathFault Place :=
  names.foldlM d.step start

/-- The place where a path leads. A slash at its end asks for a folder. -/
def locate (d : Folder) (path : String) : Except PathFault Place :=
  if Path.maxSize < path.utf8ByteSize then .error .tooLong
  else
    let p := Path.ofText path
    d.walk p.start (p.names ++ if p.closed then ["."] else [])

/-- What a path has to read. Devices have no text. -/
def read (d : Folder) (path : String) : Except PathFault Source := do
  match ← d.locate path with
  | .file names => return .text (((d.entries.find? (·.1 == names)).map Prod.snd).getD "")
  | .device .stdin => return .stdin
  | .device .terminal => .error .noDevice
  | .device _ => return .text ""
  | _ => .error .isFolder

/-- The place where a text would be written. A file that is missing is made, but no folder is, and
no name stands for itself if it has a slash behind it or is a step to another folder. The folders of
processes take no files, and what is made in other folders around the working folder is lost. -/
def target (d : Folder) (path : String) : Except PathFault Place :=
  if Path.maxSize < path.utf8ByteSize then .error .tooLong
  else
    let p := Path.ofText path
    match p.names.getLast? with
    | none => .error .isFolder
    | some name => do
      let place ← d.walk p.start (p.names.dropLast ++ ["."])
      if p.closed || Path.isDots name then .error .isFolder
      else
        match d.step place name, place with
        | .ok found, _ => if found.isFolder then .error .isFolder else .ok found
        | .error .missing, .inner folder => .ok (.file (folder ++ [name]))
        | .error .missing, .outer folder =>
          if folder.head? = some "proc" then .error .missing else .ok (.device .sink)
        | .error fault, _ => .error fault

/-- Why a text cannot be written to a path, if there is a reason. -/
def obstacle (d : Folder) (path text : String) : Option PathFault :=
  match d.target path with
  | .error fault => some fault
  | .ok (.device .terminal) => some .noDevice
  | .ok (.device .full) => if text = "" then none else some .full
  | .ok _ => none

/-- The folder as the surroundings of a command. -/
def surroundings (d : Folder) (stdin : String) : Surroundings where
  read path := (d.read path).mapError PathFault.message
  obstacle path text := (d.obstacle path text).map PathFault.message
  stdin := .ok stdin

/-! ## What a command leaves behind -/

/-- A text that a command has written has reached a place. -/
def reaches (d : Folder) (o : Outcome) (place : Place) : Option String := do
  let (path, text) ← o.file
  match d.target path with
  | .ok found => if found = place then some text else none
  | .error _ => none

/-- What a command has printed on the standard channel. -/
def printed (d : Folder) (o : Outcome) : String :=
  o.stdout ++ (d.reaches o (.device .stdout)).getD ""

/-- What a command has printed on the error channel. -/
def reported (d : Folder) (logger : Logger) (o : Outcome) : String :=
  o.stderr logger ++ (d.reaches o (.device .stderr)).getD ""

/-- The name and the text of the file that a command has made. A file that was there before is not
made. -/
def made? (d : Folder) (o : Outcome) : Option (String × String) := do
  let (path, text) ← o.file
  match d.target path with
  | .ok (.file names) =>
    if (d.inside? names).isSome then none else some (String.intercalate "/" names, text)
  | _ => none

end Folder

end SceneScript
