import SceneScript.Log
import SceneScript.Namespace
import SceneScript.Options
import SceneScript.Registry
import SceneScript.Text.Lines

/-!
# Scripts

The code of a block is put together by the rule of its kind. Blocks in inputs are generated when
the rule asks for them; chains are generated block by block. Names are handed out on the way, so
generating changes a state, and what has been changed stays even if a reference turns out to point
nowhere.

A workspace may be any graph. Recursion into inputs is therefore bounded by a number of levels:
without cycles, no block can stand inside more blocks than there are.

The steps are the same with and without a log: only where they run is it decided whether events are
kept.

* `Scope`, `GenT`, `Gen`: the names in use, and a step of generating, with or without a log.
* `Program.fragment`, `Program.chainCode`: the code of a block, of a chain.
* `Program.interpret`: the parts that a plan asks for.
* `Program.script`: the script of a workspace.
* `Program.scriptLogged`: the script, and the events on the way to it.
-/

namespace SceneScript

/-- What a script is generated from. -/
structure Program where
  workspace : Workspace
  registry : Registry
  options : ScriptOptions := {}

/-- The names in use. -/
structure Scope where
  names : Namespace
  /-- The names made for fields that create a variable, by block and field. -/
  fresh : List ((String × String) × String) := []

/-- Why a graph of blocks has no code. -/
inductive BadGraph where
  /-- A reference points nowhere. -/
  | dangling (r : Ref)
  /-- There is a cycle of blocks in inputs. -/
  | cyclic
deriving DecidableEq

/-- No block has the id. -/
structure UnknownBlock where
  id : String
deriving DecidableEq

/-- The wording of the complaint about an id. -/
def UnknownBlock.message (unknown : UnknownBlock) : String := "no block with id: " ++ unknown.id

/-- A step of generating, made of steps of another kind. -/
abbrev GenT (m : Type → Type) := ExceptT BadGraph (StateT Scope m)

/-- A step of generating without a log. -/
abbrev Gen := GenT Id

section Generating

variable {m : Type → Type} [Monad m] [MonadLog m]

/-- Notes events in the log. -/
def note (events : List Event) : GenT m Unit :=
  ExceptT.lift (StateT.lift (MonadLog.note events))

/-- Without a log, nothing is noted. -/
@[simp] theorem note_bind {α : Type} (events : List Event) (f : Unit → Gen α) :
    note events >>= f = f () := rfl

namespace Program

/-- The names in use before anything is generated. -/
def initialScope (p : Program) : Scope where
  names := .ofVariables p.workspace.declared p.options.runtime

/-! ## Blocks -/

/-- The block of a reference. -/
def block (p : Program) (r : Ref) : GenT m Block :=
  match p.workspace.block? r with
  | some b => return b
  | none => throw (.dangling r)

/-- The definition of a block's kind. -/
def definition? (p : Program) (b : Block) : Option Definition :=
  p.registry.get? b.kind

/-- The fragment of a block that contributes nothing. -/
def emptyFragment (b : Block) : Fragment :=
  match b.output with
  | some _ => .value "" .atomic
  | none => .statement ""

/-! ## Fields -/

/-- What kind of field a block has under a name. -/
def fieldKind? (p : Program) (b : Block) (field : String) : Option FieldKind := do
  (← p.definition? b).shape.field? field

/-- What a field of literals holds at first. -/
def fieldDefault? (p : Program) (b : Block) (field : String) : Option FieldValue := do
  (← p.fieldKind? b field).default?

/-- The text in a field. -/
def fieldText (p : Program) (b : Block) (field : String) : String :=
  (((b.fields.get? field).bind FieldValue.text?).or
    ((p.fieldDefault? b field).bind FieldValue.text?)).getD ""

/-- The text in a field as a literal. -/
def fieldLiteral (p : Program) (b : Block) (field : String) : String :=
  Text.quote (p.fieldText b field)

/-- The number in a field as a literal. -/
def fieldNumber (p : Program) (b : Block) (field : String) : String :=
  Literal.number <|
    (((b.fields.get? field).bind FieldValue.number?).or
      ((p.fieldDefault? b field).bind FieldValue.number?)).getD .zero

/-- The identifier of a key. -/
def resolve (key : String) : GenT m String := do
  let s ← get
  note (if s.names.binds key then [] else [.unresolvedReference key])
  let (name, names) := s.names.resolve key
  set { s with names }
  return name

/-- A name for a field that creates a variable; the same field of a block keeps its name. -/
def freshName (b : Block) (field stem : String) : GenT m String := do
  let s ← get
  match s.fresh.lookup (b.id, field) with
  | some name => return name
  | none =>
    let (name, names) := s.names.claim stem
    set ({ names, fresh := ((b.id, field), name) :: s.fresh } : Scope)
    return name

/-- The identifier that a field of variables refers to. -/
def variableField (p : Program) (b : Block) (field : String) : GenT m String := do
  match (b.fields.get? field).bind FieldValue.reference? with
  | some id => resolve id
  | none =>
    match p.fieldKind? b field with
    | some (.reference tag (.first fallback)) =>
      match (← get).names.firstOfTag? tag with
      | some v => resolve v.id
      | none => return fallback
    | some (.reference _ (.fresh stem)) => freshName b field stem
    | _ =>
      note [.notVariableField b.id field]
      return ""

/-! ## Calls -/

/-- A call of the operation of a block's kind; nothing if it has none. -/
def runtimeCall (p : Program) (b : Block) (args : List String) : String :=
  match (p.definition? b).bind Definition.operation with
  | some op => op.call p.options.runtime args
  | none => ""

/-- What there is to note about a call. -/
def callEvents (p : Program) (b : Block) : List Event :=
  match (p.definition? b).bind Definition.operation with
  | some _ => []
  | none => [.noOperation b.id b.kind]

/-! ## Inputs

In what follows, `inner` is the code of the blocks one level further inside, and `ask` is the way to
find the identifiers of fields. -/

/-- The value of a block is refused by an input. -/
def refuses (p : Program) (b : Block) (input : String) (child : Block) : Bool :=
  match (p.definition? b).bind (·.shape.accepted? input), child.output with
  | some accepted, some tag => !accepted.accepts tag
  | _, _ => false

/-- The code of the block in an input, as it stands in a context. -/
def valueCode (p : Program) (inner : Ref → GenT m Fragment) (b : Block) (input : String)
    (outer : Precedence) : GenT m (Option String) := do
  match b.valueInput input with
  | none => return none
  | some r =>
    let child ← p.block r
    if p.options.checkSockets && p.refuses b input child then
      note (child.output.toList.map (.ignoredConnection b.id input))
      return none
    else
      match ← inner r with
      | .value code precedence =>
        return if code.isEmpty then none else some (precedence.wrap code outer)
      | .statement _ => return none

/-- The code of blocks one after another; those that contribute nothing leave no line. -/
def blocksCode (inner : Ref → GenT m Fragment) : List Ref → GenT m (List String)
  | [] => return []
  | r :: rest => do
    let fragment ← inner r
    let codes ← blocksCode inner rest
    return if fragment.isEmpty then codes else fragment.code :: codes

/-- The code of a chain. -/
def chainCode (p : Program) (inner : Ref → GenT m Fragment) (head : Ref) : GenT m String := do
  let chain := p.workspace.chain p.workspace.size (some head)
  let codes ← blocksCode inner (chain.map Prod.fst)
  return String.intercalate "\n" codes

/-- The code of the chain in an input, indented. -/
def bodyCode (p : Program) (inner : Ref → GenT m Fragment) (b : Block) (input : String) :
    GenT m String := do
  match b.statementInput input with
  | none => return ""
  | some head => return Text.indent p.options.indent (← p.chainCode inner head)

/-! ## Rules -/

/-- Carries out a plan for a block. -/
def interpret {α : Type} (p : Program) (ask : Block → String → GenT m String)
    (inner : Ref → GenT m Fragment) (b : Block) : Plan α → GenT m (Option α)
  | .done result => return some result
  | .nothing => return none
  | .value input outer next => do p.interpret ask inner b (next (← p.valueCode inner b input outer))
  | .body input next => do p.interpret ask inner b (next (← p.bodyCode inner b input))
  | .identifier field next => do p.interpret ask inner b (next (← ask b field))
  | .text field next => p.interpret ask inner b (next (p.fieldText b field))
  | .number field next => p.interpret ask inner b (next (p.fieldNumber b field))
  | .call args next => do
    note (p.callEvents b)
    p.interpret ask inner b (next (p.runtimeCall b args))
  | .owner next => p.interpret ask inner b (next b.id b.kind)

/-- The code of a block by the rule of its kind. -/
def applyRule (p : Program) (ask : Block → String → GenT m String) (inner : Ref → GenT m Fragment)
    (b : Block) : Rule → GenT m Fragment
  | .statement plan => do
    match ← p.interpret ask inner b plan with
    | some code => return .statement code
    | none => return .statement ""
  | .value plan => do
    match ← p.interpret ask inner b plan with
    | some (code, precedence) => return .value code precedence
    | none => return emptyFragment b

/-- The code of a block, given that of the blocks in its inputs. -/
def fragmentStep (p : Program) (ask : Block → String → GenT m String)
    (inner : Ref → GenT m Fragment) (r : Ref) : GenT m Fragment := do
  let b ← p.block r
  if !b.enabled then return emptyFragment b
  else
    match p.definition? b with
    | none =>
      note [.noRule b.id b.kind]
      return emptyFragment b
    | some d => p.applyRule ask inner b d.rule

/-- The code of a block, at most `levels` blocks inside each other, with a way to find
identifiers. -/
def fragmentAsking (p : Program) (ask : Block → String → GenT m String) :
    Nat → Ref → GenT m Fragment
  | 0, _ => throw .cyclic
  | levels + 1, r => p.fragmentStep ask (p.fragmentAsking ask levels) r

/-- The code of a block, at most `levels` blocks inside each other. -/
def fragmentWithin (p : Program) (levels : Nat) (r : Ref) : GenT m Fragment :=
  p.fragmentAsking p.variableField levels r

theorem fragmentWithin_succ (p : Program) (levels : Nat) (r : Ref) :
    (p.fragmentWithin (levels + 1) r : GenT m Fragment) =
      p.fragmentStep p.variableField (p.fragmentWithin levels) r := rfl

/-- How many blocks can stand inside each other if there is no cycle. -/
def maxLevels (p : Program) : Nat := p.workspace.size + 1

/-- The code of a block, without what hangs below it. -/
def fragment (p : Program) (r : Ref) : GenT m Fragment := p.fragmentWithin p.maxLevels r

/-! ## Whole programs -/

/-- The code of the chains of top-level blocks; expressions that hang nowhere are left out. -/
def topCode (p : Program) (inner : Ref → GenT m Fragment) : List Ref → GenT m (List String)
  | [] => return []
  | head :: rest => do
    let b ← p.block head
    if b.isStatement then
      let code ← p.chainCode inner head
      let codes ← p.topCode inner rest
      return if code.isEmpty then codes else code :: codes
    else p.topCode inner rest

/-- What generating yields if it starts without names in use. -/
def runFresh {α : Type} (p : Program) (g : Gen α) : Except BadGraph α :=
  (g.run.run p.initialScope).1

/-- What generating yields if it starts without names in use, and the events on the way. -/
def runLogged {α : Type} (p : Program) (g : GenT Logged α) : Except BadGraph α × List Event :=
  let run : Logged (Except BadGraph α × Scope) := g.run.run p.initialScope
  let ((result, _), log) := run.run []
  (result, log)

/-- The script of a workspace, at most `levels` blocks inside each other. -/
def scriptWithin (p : Program) (levels : Nat) : Except BadGraph String :=
  (p.runFresh (p.topCode (p.fragmentWithin levels) p.workspace.top)).map (String.intercalate "\n")

/-- The script of a workspace. -/
def script (p : Program) : Except BadGraph String := p.scriptWithin p.maxLevels

/-- The script of a workspace, and the events on the way to it. -/
def scriptLogged (p : Program) : Except BadGraph String × List Event :=
  let (codes, log) := p.runLogged (p.topCode p.fragment p.workspace.top)
  (codes.map (String.intercalate "\n"), log)

/-- The code of the block of an id, at most `levels` blocks inside each other. -/
def blockScriptWithin (p : Program) (levels : Nat) (id : String) :
    Except UnknownBlock (Except BadGraph String) :=
  match p.workspace.find? id with
  | none => .error ⟨id⟩
  | some r => .ok ((p.runFresh (p.fragmentWithin levels r)).map Fragment.code)

/-- The code of the block of an id. -/
def blockScript (p : Program) (id : String) : Except UnknownBlock (Except BadGraph String) :=
  p.blockScriptWithin p.maxLevels id

end Program

end Generating

end SceneScript
