/-!
# Diagnostics

Numbered findings about a workspace. The hundreds of a code give its category; findings about
sockets are warnings, all others are errors. A collection stores only the first errors, but counts
all of them.

* `Diagnostic`, `Diagnostic.line`: a finding, and the line that shows it.
* `Diagnostics`: a collection, with `push` and `append`.
-/

namespace SceneScript

/-- What a finding is about. -/
inductive Diagnostic.Category where
  | syntactic
  | structural
  | socket
deriving DecidableEq, Repr, Inhabited

/-- The spelling of a category. -/
def Diagnostic.Category.name : Diagnostic.Category → String
  | syntactic => "syntax"
  | structural => "structure"
  | socket => "socket"

/-- How grave a finding is. -/
inductive Diagnostic.Severity where
  | error
  | warning
deriving DecidableEq, Repr, Inhabited

/-- The spelling of a severity. -/
def Diagnostic.Severity.name : Diagnostic.Severity → String
  | error => "error"
  | warning => "warning"

/-- The category of a code, by its hundreds. -/
def Diagnostic.categoryOf (code : Nat) : Category :=
  if 200 ≤ code ∧ code ≤ 299 then .structural
  else if 300 ≤ code ∧ code ≤ 399 then .socket
  else .syntactic

/-- The severity of a code. Findings about sockets never stand in the way of a script. -/
def Diagnostic.severityOf (code : Nat) : Severity :=
  if categoryOf code = .socket then .warning else .error

/-- A finding about a workspace. Unless it is said otherwise, its severity and its category are
those of its code. -/
structure Diagnostic where
  code : Nat
  message : String
  /-- The block that the finding is about. -/
  block : Option String := none
  suggestion : Option String := none
  severity : Diagnostic.Severity := Diagnostic.severityOf code
  category : Diagnostic.Category := Diagnostic.categoryOf code
deriving DecidableEq, Repr, Inhabited

namespace Diagnostic

/-- The code with the letter of its severity. -/
def label (d : Diagnostic) : String :=
  (if severityOf d.code = .warning then "W" else "E") ++ toString d.code

/-- The line that shows a finding. -/
def line (d : Diagnostic) : String :=
  let place :=
    match d.block with
    | some id => "block " ++ id ++ ": "
    | none => ""
  place ++ d.label ++ " [" ++ d.category.name ++ "] " ++ d.message

end Diagnostic

/-- A collection of findings. -/
structure Diagnostics where
  errors : List Diagnostic := []
  warnings : List Diagnostic := []
  totalErrors : Nat := 0
  totalWarnings : Nat := 0
deriving DecidableEq, Repr, Inhabited

namespace Diagnostics

/-- How many errors are stored. -/
def maxErrors : Nat := 20

/-- The collection without findings. -/
def empty : Diagnostics := {}

/-- Adds a finding. Errors beyond the limit are only counted. -/
def push (c : Diagnostics) (d : Diagnostic) : Diagnostics :=
  match d.severity with
  | .error =>
    { c with
      errors := if c.errors.length < maxErrors then c.errors ++ [d] else c.errors
      totalErrors := c.totalErrors + 1 }
  | .warning =>
    { c with
      warnings := c.warnings ++ [d]
      totalWarnings := c.totalWarnings + 1 }

/-- Adds findings from left to right. -/
def pushAll (c : Diagnostics) (ds : List Diagnostic) : Diagnostics :=
  ds.foldl push c

/-- The stored findings, errors first. -/
def stored (c : Diagnostics) : List Diagnostic := c.errors ++ c.warnings

/-- How many errors are counted but not stored. -/
def dropped (c : Diagnostics) : Nat := c.totalErrors - c.errors.length

/-- Adds all findings of another collection, those that it only counts included. -/
def append (c other : Diagnostics) : Diagnostics :=
  let joined := c.pushAll other.stored
  { joined with totalErrors := joined.totalErrors + other.dropped }

instance : Append Diagnostics := ⟨append⟩

/-- There are errors. -/
def hasErrors (c : Diagnostics) : Bool := 0 < c.totalErrors

/-- There are warnings. -/
def hasWarnings (c : Diagnostics) : Bool := 0 < c.totalWarnings

/-- The lines that show the stored findings. -/
def lines (c : Diagnostics) : List String := c.stored.map Diagnostic.line

end Diagnostics

end SceneScript
