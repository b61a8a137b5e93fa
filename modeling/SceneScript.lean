import SceneScript.CommandLine.Folder
import SceneScript.Kinds.Operators
import SceneScript.Main
import SceneScript.Proofs.Dict
import SceneScript.Proofs.Forest
import SceneScript.Proofs.Layout
import SceneScript.Proofs.Diagnostics
import SceneScript.Proofs.Linking
import SceneScript.Proofs.Grammar
import SceneScript.Proofs.Arena
import SceneScript.Proofs.References
import SceneScript.Proofs.Faithful
import SceneScript.Proofs.Hygiene
import SceneScript.Proofs.Script.Syntax
import SceneScript.Proofs.Script.Tokens
import SceneScript.Proofs.Script.Numbers
import SceneScript.Proofs.Script.Reading
import SceneScript.Proofs.ForestScript
import SceneScript.Proofs.Script.Meaning
import SceneScript.Proofs.Script.Code
import SceneScript.Proofs.Script.Agreement
import SceneScript.Proofs.Script.Rules
import SceneScript.Proofs.Script.Denotation
import SceneScript.Proofs.Findings
import SceneScript.Proofs.Lockstep
import SceneScript.Proofs.Logging
import SceneScript.Proofs.Pruning
import SceneScript.Proofs.Calls
import SceneScript.Proofs.Levels
import SceneScript.Proofs.Increments
import SceneScript.Proofs.Script.FreeText
import SceneScript.Proofs.Compilation
import SceneScript.Proofs.Removal
import SceneScript.Proofs.Disabling
import SceneScript.Proofs.Following
import SceneScript.Proofs.Quiet
import SceneScript.Proofs.Silent
import SceneScript.Proofs.Tags
import SceneScript.Proofs.Outline
import SceneScript.Proofs.Refilling
import SceneScript.Proofs.Filling
import SceneScript.Proofs.Creating
import SceneScript.Proofs.Renaming
import SceneScript.Proofs.Commands
import SceneScript.Proofs.Script.Literals
import SceneScript.Proofs.Lines
import SceneScript.Proofs.Script.Listing
import SceneScript.Proofs.Script.Spreading
import SceneScript.Proofs.Indentation
import SceneScript.Proofs.Context
import SceneScript.Proofs.Visits
import SceneScript.Proofs.Duplicates
import SceneScript.Proofs.Reordering
import SceneScript.Proofs.MemberOrder
import SceneScript.Proofs.Rearranged
import SceneScript.Proofs.Registration
import SceneScript.Proofs.ChainLinks
import SceneScript.Proofs.Expressions
import SceneScript.Proofs.Rendering
import SceneScript.Proofs.Rounding
import SceneScript.Proofs.NumberLiterals
import SceneScript.Proofs.Probing
