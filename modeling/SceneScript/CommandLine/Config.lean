import SceneScript.Options
import SceneScript.Toml.Document

/-!
# Configuration files

A configuration file is a TOML document whose entries give options. Entries that are no options are
passed over.

* `Config.ofText`: the options of a file.
-/

namespace SceneScript.Config

/-- Why a file is refused. -/
inductive Fault where
  | noDocument (fault : Toml.Fault)
  | wrongType (name : String)
deriving DecidableEq

/-- The wording of a reason. -/
def Fault.message : Fault → String
  | noDocument fault => fault.message
  | wrongType name => "'" ++ name ++ "' has a value of the wrong type"

/-- The names of the options. -/
def names : List String := ["runtime_namespace", "indent", "check_sockets", "validate"]

/-- Sets the option of an entry. -/
def set (o : Options) : String × Toml → Except Fault Options
  | ("runtime_namespace", .string value) => .ok { o with script.runtime := value }
  | ("indent", .string value) => .ok { o with script.indent := value }
  | ("check_sockets", .bool value) => .ok { o with script.checkSockets := value }
  | ("validate", .bool value) => .ok { o with validate := value }
  | (name, _) => if names.contains name then .error (.wrongType name) else .ok o

/-- The options of a file. -/
def ofText (text : String) : Except Fault Options := do
  let entries ← (Toml.ofText text).mapError .noDocument
  entries.foldlM set {}

end SceneScript.Config
