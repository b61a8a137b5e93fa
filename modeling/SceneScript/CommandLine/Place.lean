/-!
# Places in the file system

A path is followed name by name. The working folder stands in the folder of temporary files; of what
lies around it only the usual folders of a system and the devices are known.

* `PathFault`: why a path is of no use.
* `Place`, `Place.parent`: where a path can lead, and the folder around a place.
* `Place.landmark?`: what is known outside of the working folder.
* `Path`: a path as it is written.
-/

namespace SceneScript

/-- Why a path is of no use. -/
inductive PathFault where
  | missing
  /-- There is nothing behind a device. -/
  | noDevice
  /-- The path goes on behind something that is no folder. -/
  | notFolder
  /-- The path leads to a folder. -/
  | isFolder
  /-- There is no room for a text. -/
  | full
  /-- The path or a name in it is too long. -/
  | tooLong
deriving DecidableEq

namespace PathFault

/-- What is wrong, in words. -/
def text : PathFault → String
  | missing => "No such file or directory"
  | noDevice => "No such device or address"
  | notFolder => "Not a directory"
  | isFolder => "Is a directory"
  | full => "No space left on device"
  | tooLong => "File name too long"

/-- The number by which a file system reports the fault. -/
def code : PathFault → Nat
  | missing => 2
  | noDevice => 6
  | notFolder => 20
  | isFolder => 21
  | full => 28
  | tooLong => 36

/-- The wording of a fault. -/
def message (fault : PathFault) : String :=
  fault.text ++ " (os error " ++ toString fault.code ++ ")"

/-- The fault that a file system reports by a number. -/
def ofCode? (code : Nat) : Option PathFault :=
  [missing, noDevice, notFolder, isFolder, full, tooLong].find? fun fault => fault.code == code

end PathFault

/-- Files that stand for something else. -/
inductive Device where
  /-- Takes any text. -/
  | sink
  /-- Has no room. -/
  | full
  /-- The terminal, of which there is none. -/
  | terminal
  | stdin
  | stdout
  | stderr
deriving DecidableEq

/-- Where a path can lead. -/
inductive Place where
  /-- The working folder or one inside it, by the names on the way from the working folder. -/
  | inner (path : List String)
  /-- Another folder, by the names on the way from the top of the file system. -/
  | outer (path : List String)
  /-- A file in the working folder, by the names on the way to it. -/
  | file (path : List String)
  | device (device : Device)
deriving DecidableEq

namespace Place

/-- The top of the file system. -/
def top : Place := outer []

/-- The place is a folder. -/
def isFolder : Place → Bool
  | inner _ | outer _ => true
  | file _ | device _ => false

/-- The folder around a folder. The top has none and stands for itself. -/
def parent : Place → Place
  | inner [] => outer ["tmp"]
  | inner path => inner path.dropLast
  | outer path => outer path.dropLast
  | place => place

/-! ## Known places -/

/-- The usual folders of a system. -/
def folders : List String :=
  ["/boot", "/dev", "/dev/pts", "/dev/shm", "/etc", "/etc/default", "/etc/ssl", "/home", "/media",
    "/mnt", "/opt", "/proc", "/proc/self", "/proc/self/fd", "/proc/self/task", "/proc/sys", "/root",
    "/run", "/run/lock", "/srv", "/sys", "/tmp", "/usr", "/usr/bin", "/usr/games", "/usr/include",
    "/usr/lib", "/usr/lib64", "/usr/libexec", "/usr/local", "/usr/local/bin", "/usr/local/etc",
    "/usr/local/games", "/usr/local/include", "/usr/local/lib", "/usr/local/sbin",
    "/usr/local/share", "/usr/local/src", "/usr/sbin", "/usr/share", "/usr/share/doc", "/usr/src",
    "/var", "/var/backups", "/var/cache", "/var/lib", "/var/local", "/var/log", "/var/mail",
    "/var/opt", "/var/spool", "/var/tmp"]

/-- Names that stand for places with a name of their own. -/
def links : List (String × Place) :=
  [("/bin", outer ["usr", "bin"]), ("/sbin", outer ["usr", "sbin"]),
    ("/lib", outer ["usr", "lib"]), ("/lib64", outer ["usr", "lib64"]),
    ("/var/run", outer ["run"]), ("/var/lock", outer ["run", "lock"]),
    ("/dev/fd", outer ["proc", "self", "fd"]), ("/proc/self/cwd", inner []),
    ("/proc/self/root", top)]

/-- The names of the devices. -/
def devices : List (String × Device) :=
  [("/dev/null", .sink), ("/dev/zero", .sink), ("/dev/random", .sink), ("/dev/urandom", .sink),
    ("/dev/full", .full), ("/dev/tty", .terminal), ("/dev/stdin", .stdin), ("/dev/stdout", .stdout),
    ("/dev/stderr", .stderr), ("/proc/self/fd/0", .stdin), ("/proc/self/fd/1", .stdout),
    ("/proc/self/fd/2", .stderr)]

/-- What stands at the end of some names from the top of the file system. -/
def landmark? (path : List String) : Option Place :=
  let name := "/" ++ String.intercalate "/" path
  if folders.contains name then some (outer path)
  else links.lookup name <|> (devices.lookup name).map device

end Place

/-! ## Paths -/

/-- A path as it is written. -/
structure Path where
  /-- It starts at the top of the file system. -/
  absolute : Bool
  names : List String
  /-- It ends in a slash. -/
  closed : Bool
deriving DecidableEq

namespace Path

/-- How many bytes a path has at most. -/
def maxSize : Nat := 4095

/-- How many bytes a name has at most. -/
def maxNameSize : Nat := 255

/-- The path of a text. -/
def ofText (text : String) : Path where
  absolute := text.startsWith "/"
  names := (text.splitOn "/").filter (· ≠ "")
  closed := text.endsWith "/"

/-- Where a path starts. -/
def start (p : Path) : Place := if p.absolute then .top else .inner []

/-- The name is a step to the same folder or to the one around it. -/
def isDots (name : String) : Bool := name = "." || name = ".."

end Path

end SceneScript
