import SceneScript.Proofs.Dict
import SceneScript.Proofs.Nodes

/-!
# Scripts of forests

A script depends on a workspace only through the forest that the workspace holds. The rules of the
kinds can be carried out on trees as well: there no reference points nowhere, and no bound on the
number of levels is needed.

* `Parts`, `Plan.run`: the answers to what a rule asks for, and carrying out a rule with them.
* `Tree.fragment`, `Tree.codes`: the code of a tree's block, of its chain.
* `Tree.levels`: how many blocks of a tree stand inside each other.
* **`Program.script_eq_forestScript`**: the script of a workspace is that of its forest.
-/

namespace SceneScript

/-! ## Steps of generating -/

namespace Naming

variable {α β : Type}

/-- The step as a step of generating; it never fails. -/
def toGen (m : Naming α) : Gen α := ExceptT.lift m

theorem toGen_bind (m : Naming α) (f : α → Naming β) :
    toGen (m >>= f) = toGen m >>= fun a => toGen (f a) := rfl

theorem toGen_freshName (b : Block) (field stem : String) :
    toGen (freshName b.id field stem) = Program.freshName b field stem := by
  unfold freshName Program.freshName
  rw [toGen_bind]
  refine bind_congr fun s => ?_
  cases s.fresh.lookup (b.id, field) <;> rfl

end Naming

namespace Program

variable (p : Program) (b : Block)

theorem fieldKind?_eq (field : String) :
    p.fieldKind? b field = b.node.fieldKind? p.registry field := by
  rw [Node.fieldKind?, Registry.shape?, Option.bind_map]
  rfl

theorem fieldText_eq (field : String) : p.fieldText b field = b.node.text p.registry field := by
  unfold fieldText fieldDefault? Node.text Node.initial?
  rw [fieldKind?_eq]
  rfl

theorem fieldNumber_eq (field : String) :
    p.fieldNumber b field = Literal.number (b.node.number p.registry field) := by
  unfold fieldNumber fieldDefault? Node.number Node.initial?
  rw [fieldKind?_eq]
  rfl

theorem variableField_eq (field : String) :
    p.variableField b field = (b.node.identifier p.registry field).toGen := by
  have hget : b.fields.get? field = b.node.fields.lookup field := rfl
  unfold variableField Node.identifier
  rw [fieldKind?_eq, hget]
  cases (b.node.fields.lookup field).bind FieldValue.reference? with
  | some id => rfl
  | none =>
    cases b.node.fieldKind? p.registry field with
    | none => rfl
    | some kind =>
      cases kind with
      | reference tag initial =>
        cases initial with
        | fresh stem => exact (Naming.toGen_freshName b field stem).symm
        | first fallback =>
          simp only [Node.unsetVariable, Naming.toGen_bind]
          refine bind_congr fun s => ?_
          cases s.names.firstOfTag? tag <;> rfl
      | _ => rfl

end Program

/-! ## Carrying out plans -/

/-- The answers to what a plan asks for. -/
structure Parts where
  id : String
  kind : String
  value : String → Precedence → Naming (Option String)
  body : String → Naming String
  identifier : String → Naming String
  text : String → String
  number : String → String
  call : List String → String

/-- Carries out a plan with given answers. -/
def Plan.run {α : Type} (parts : Parts) : Plan α → OptionT Naming α
  | .done result => pure result
  | .nothing => failure
  | .value input outer next => do
    (next (← OptionT.lift (parts.value input outer))).run parts
  | .body input next => do (next (← OptionT.lift (parts.body input))).run parts
  | .identifier field next => do (next (← OptionT.lift (parts.identifier field))).run parts
  | .text field next => (next (parts.text field)).run parts
  | .number field next => (next (parts.number field)).run parts
  | .call args next => (next (parts.call args)).run parts
  | .owner next => (next parts.id parts.kind).run parts

/-- What a plan asks for in a block of a workspace is answered by the parts. -/
structure Parts.Answer (parts : Parts) (p : Program) (inner : Ref → Gen Fragment) (b : Block) :
    Prop where
  id : parts.id = b.id
  kind : parts.kind = b.kind
  value : ∀ input outer, p.valueCode inner b input outer = (parts.value input outer).toGen
  body : ∀ input, p.bodyCode inner b input = (parts.body input).toGen
  identifier : ∀ field, p.variableField b field = (parts.identifier field).toGen
  text : ∀ field, p.fieldText b field = parts.text field
  number : ∀ field, p.fieldNumber b field = parts.number field
  call : ∀ args, p.runtimeCall b args = parts.call args

namespace Program

variable {p : Program} {inner : Ref → Gen Fragment} {b : Block} {parts : Parts}

theorem toGen_run_bind {α β : Type} (m : Naming β) (f : β → OptionT Naming α) :
    Naming.toGen (OptionT.lift m >>= f).run =
      m.toGen >>= fun a => Naming.toGen (f a).run := rfl

/-- Carrying out a plan for a block of a workspace is carrying it out with the answers. -/
theorem interpret_eq (h : parts.Answer p inner b) {α : Type} : ∀ plan : Plan α,
    p.interpret p.variableField inner b plan = Naming.toGen (plan.run parts).run
  | .done _ => rfl
  | .nothing => rfl
  | .value input outer next => by
    rw [interpret, h.value, Plan.run, toGen_run_bind]
    exact bind_congr fun code => interpret_eq h (next code)
  | .body input next => by
    rw [interpret, h.body, Plan.run, toGen_run_bind]
    exact bind_congr fun code => interpret_eq h (next code)
  | .identifier field next => by
    rw [interpret, h.identifier, Plan.run, toGen_run_bind]
    exact bind_congr fun name => interpret_eq h (next name)
  | .text field next => by rw [interpret, h.text, interpret_eq h, Plan.run]
  | .number field next => by rw [interpret, h.number, interpret_eq h, Plan.run]
  | .call args next => by rw [interpret, note_bind, h.call, interpret_eq h, Plan.run]
  | .owner next => by rw [interpret, ← h.id, ← h.kind, interpret_eq h, Plan.run]

end Program

/-! ## The code of trees -/

/-- The code of a value as it stands in a context, if there is some. -/
def Fragment.codeIn? (outer : Precedence) : Fragment → Option String
  | .value code precedence => if code.isEmpty then none else some (precedence.wrap code outer)
  | .statement _ => none

namespace Node

variable (registry : Registry) (options : ScriptOptions) (node : Node)

/-- The fragment of a block that contributes nothing. -/
def emptyFragment : Fragment :=
  match node.output? registry with
  | some _ => .value "" .atomic
  | none => .statement ""

theorem code_emptyFragment : (node.emptyFragment registry).code = "" := by
  unfold emptyFragment
  cases node.output? registry <;> rfl

/-- The answers to a rule, given the code in the inputs. -/
def parts (values : List (String × Naming Fragment)) (bodies : List (String × Naming String)) :
    Parts where
  id := node.id
  kind := node.kind
  value input outer := do
    let fragment ← (values.lookup input).getD (pure (.statement ""))
    return fragment.codeIn? outer
  body input := (bodies.lookup input).getD (pure "")
  identifier := node.identifier registry
  text := node.text registry
  number field := Literal.number (node.number registry field)
  call args :=
    match (registry.get? node.kind).bind Definition.operation with
    | some op => op.call options.runtime args
    | none => ""

/-- The code of a block by a rule. -/
def applyRule (parts : Parts) : Rule → Naming Fragment
  | .statement plan => do
    match ← (plan.run parts).run with
    | some code => return .statement code
    | none => return .statement ""
  | .value plan => do
    match ← (plan.run parts).run with
    | some (code, precedence) => return .value code precedence
    | none => return node.emptyFragment registry

/-- The code of a block, given the code in its inputs. -/
def fragment (enabled : Bool) (values : List (String × Naming Fragment))
    (bodies : List (String × Naming String)) : Naming Fragment :=
  if !enabled then return node.emptyFragment registry
  else
    match registry.get? node.kind with
    | none => return node.emptyFragment registry
    | some d => node.applyRule registry (node.parts registry options values bodies) d.rule

end Node

/-- The code of a chain in an input, indented. -/
def indented (options : ScriptOptions) (codes : Naming (List String)) : Naming String := do
  return Text.indent options.indent (String.intercalate "\n" (← codes))

namespace Tree

variable (registry : Registry) (options : ScriptOptions)

mutual

/-- The code of a tree's block. -/
def fragment : Tree → Naming Fragment
  | none => return .statement ""
  | block id kind enabled fields values statements _ =>
    (⟨id, kind, fields⟩ : Node).fragment registry options enabled (inputFragments kind values)
      (inputBodies statements)

/-- The code of the blocks of a tree's chain; those that contribute nothing leave no line. -/
def codes : Tree → Naming (List String)
  | none => return []
  | block id kind enabled fields values statements next => do
    let fragment ← (⟨id, kind, fields⟩ : Node).fragment registry options enabled
      (inputFragments kind values) (inputBodies statements)
    let codes ← next.codes
    return if fragment.isEmpty then codes else fragment.code :: codes

/-- The code in the inputs of a kind that take values, apart from what they refuse. -/
def inputFragments (kind : String) : List (String × Tree) → List (String × Naming Fragment)
  | [] => []
  | (input, t) :: rest =>
    (input, if options.checkSockets && t.refusedBy registry kind input then
      return .statement "" else t.fragment) :: inputFragments kind rest

/-- The code in the inputs that take statements. -/
def inputBodies : List (String × Tree) → List (String × Naming String)
  | [] => []
  | (input, t) :: rest => (input, indented options t.codes) :: inputBodies rest

end

/-- The code of the chains of a forest; expressions that hang nowhere are left out. -/
def topCodes : List Tree → Naming (List String)
  | [] => return []
  | t :: rest => do
    if (t.output? registry).isNone then
      let code := String.intercalate "\n" (← t.codes registry options)
      let codes ← topCodes rest
      return if code.isEmpty then codes else code :: codes
    else topCodes rest

end Tree

/-- The script of a forest. -/
def forestScript (registry : Registry) (options : ScriptOptions) (declared : List Variable)
    (forest : List Tree) : String :=
  String.intercalate "\n" ((Tree.topCodes registry options forest).run
    { names := .ofVariables declared options.runtime }).1

/-! ## Reading trees along references -/

section Traversals

variable {α β : Type} {f : α → Option β}

theorem mapM_cons_eq_some_iff {a : α} {l : List α} {l' : List β} :
    (a :: l).mapM f = some l' ↔
      ∃ b, f a = some b ∧ ∃ rest, l.mapM f = some rest ∧ b :: rest = l' := by
  simp only [List.mapM_cons, Option.pure_def, Option.bind_eq_bind, Option.bind_eq_some_iff,
    Option.some.injEq]

theorem exists_of_mem_mapM {b : β} : ∀ {l : List α} {l' : List β}, l.mapM f = some l' → b ∈ l' →
    ∃ a ∈ l, f a = some b
  | [], _, h, hb => by
    cases h
    cases hb
  | a :: rest, _, h, hb => by
    obtain ⟨c, hc, rest', hrest, rfl⟩ := mapM_cons_eq_some_iff.1 h
    rcases List.mem_cons.1 hb with rfl | hb
    · exact ⟨a, List.mem_cons_self, hc⟩
    · obtain ⟨a', ha', hb⟩ := exists_of_mem_mapM hrest hb
      exact ⟨a', List.mem_cons_of_mem _ ha', hb⟩

theorem exists_mapM_of_mem {a : α} : ∀ {l : List α} {l' : List β}, l.mapM f = some l' → a ∈ l →
    ∃ b ∈ l', f a = some b
  | [], _, _, ha => by cases ha
  | a' :: rest, _, h, ha => by
    obtain ⟨c, hc, rest', hrest, rfl⟩ := mapM_cons_eq_some_iff.1 h
    rcases List.mem_cons.1 ha with rfl | ha
    · exact ⟨c, List.mem_cons_self, hc⟩
    · obtain ⟨b, hb, hab⟩ := exists_mapM_of_mem hrest ha
      exact ⟨b, List.mem_cons_of_mem _ hb, hab⟩

theorem lookup_mapM (name : String) : ∀ {l : List (String × α)} {l' : List (String × β)},
    (l.mapM fun entry => do return (entry.1, ← f entry.2)) = some l' →
      (l.lookup name).map f = (l'.lookup name).map some
  | [], _, h => by
    cases h
    rfl
  | (key, a) :: rest, l', h => by
    obtain ⟨_, hentry, rest', hrest, rfl⟩ := mapM_cons_eq_some_iff.1 h
    obtain ⟨b, hb, ⟨⟩⟩ := Option.bind_eq_some_iff.1 hentry
    rw [List.lookup_cons, List.lookup_cons]
    cases name == key
    · exact lookup_mapM name hrest
    · exact congrArg some hb

end Traversals

namespace Workspace

variable {w : Workspace}

/-- The parts of a tree that is read at a block. -/
theorem treeWithin_some {depth : Nat} {r : Ref} {t : Tree}
    (h : w.treeWithin depth (some r) = some t) :
    ∃ d b values statements next, depth = d + 1 ∧ w.block? r = some b ∧
      (b.values.entries.mapM fun entry => do return (entry.1, ← w.treeWithin d entry.2)) =
        some values ∧
      (b.statements.entries.mapM fun entry => do return (entry.1, ← w.treeWithin d entry.2)) =
        some statements ∧
      w.treeWithin d b.next = some next ∧
      t = .block b.id b.kind b.enabled b.fields.entries values statements next := by
  cases depth with
  | zero => cases h
  | succ d =>
    simp only [treeWithin, Option.bind_eq_bind, Option.bind_eq_some_iff, Option.pure_def,
      Option.some.injEq] at h
    obtain ⟨b, hb, values, hvalues, statements, hstatements, next, hnext, rfl⟩ := h
    exact ⟨d, b, values, statements, next, rfl, hb, hvalues, hstatements, hnext, rfl⟩

end Workspace

namespace Tree

variable {registry : Registry} {options : ScriptOptions}

theorem lookup_inputFragments (kind input : String) : ∀ values : List (String × Tree),
    (inputFragments registry options kind values).lookup input = (values.lookup input).map fun t =>
      if options.checkSockets && t.refusedBy registry kind input then return .statement ""
      else t.fragment registry options
  | [] => by rw [inputFragments]; rfl
  | (key, t) :: rest => by
    rw [inputFragments, List.lookup_cons, List.lookup_cons, lookup_inputFragments kind input rest]
    cases h : input == key
    · rfl
    · rw [beq_iff_eq.1 h]
      rfl

theorem lookup_inputBodies (input : String) : ∀ statements : List (String × Tree),
    (inputBodies registry options statements).lookup input =
      (statements.lookup input).map fun t => indented options (t.codes registry options)
  | [] => by rw [inputBodies]; rfl
  | (key, t) :: rest => by
    rw [inputBodies, List.lookup_cons, List.lookup_cons, lookup_inputBodies input rest]
    cases input == key <;> rfl

end Tree

/-! ## Levels -/

namespace Tree

mutual

/-- How many blocks of a tree stand inside each other; a block below another one is not inside
it. -/
def levels : Tree → Nat
  | none => 0
  | block _ _ _ _ values statements next =>
    max (max (levelsOfInputs values) (levelsOfInputs statements) + 1) next.levels

/-- How many blocks in inputs stand inside each other. -/
def levelsOfInputs : List (String × Tree) → Nat
  | [] => 0
  | (_, t) :: rest => max t.levels (levelsOfInputs rest)

end

theorem levelsOfInputs_le_iff {n : Nat} : ∀ {inputs : List (String × Tree)},
    levelsOfInputs inputs ≤ n ↔ ∀ input ∈ inputs, input.2.levels ≤ n
  | [] => by simp [levelsOfInputs]
  | (_, t) :: rest => by
    rw [levelsOfInputs, Nat.max_le, levelsOfInputs_le_iff, List.forall_mem_cons]

theorem levels_le_of_lookup {inputs : List (String × Tree)} {name : String} {t : Tree} {n : Nat}
    (h : levelsOfInputs inputs ≤ n) (ht : inputs.lookup name = some t) : t.levels ≤ n :=
  levelsOfInputs_le_iff.1 h _ (Dict.mem_of_lookup ht)

end Tree

namespace Workspace

theorem levelsOfInputs_le_of_mapM {w : Workspace} {depth : Nat}
    {inputs : List (String × Option Ref)} {trees : List (String × Tree)}
    (ih : ∀ head t, w.treeWithin depth head = some t → t.levels ≤ depth)
    (h : (inputs.mapM fun entry => do return (entry.1, ← w.treeWithin depth entry.2)) =
      some trees) : Tree.levelsOfInputs trees ≤ depth := by
  refine Tree.levelsOfInputs_le_iff.2 fun entry hentry => ?_
  obtain ⟨input, -, hinput⟩ := exists_of_mem_mapM h hentry
  obtain ⟨t, ht, ⟨⟩⟩ := Option.bind_eq_some_iff.1 hinput
  exact ih _ _ ht

/-- A tree has no more levels than blocks are looked at one after another. -/
theorem levels_le_of_treeWithin {w : Workspace} : ∀ {depth : Nat} (head : Option Ref) (t : Tree),
    w.treeWithin depth head = some t → t.levels ≤ depth
  | depth, none, t, h => by
    rw [treeWithin_none] at h
    cases h
    exact Nat.zero_le _
  | depth, some r, t, h => by
    obtain ⟨d, b, values, statements, next, rfl, -, hvalues, hstatements, hnext, rfl⟩ :=
      treeWithin_some h
    have hvalues := levelsOfInputs_le_of_mapM levels_le_of_treeWithin hvalues
    have hstatements := levelsOfInputs_le_of_mapM levels_le_of_treeWithin hstatements
    have hnext := levels_le_of_treeWithin b.next next hnext
    rw [Tree.levels]
    omega

end Workspace

/-! ## From references to trees -/

namespace Program

variable {p : Program}

theorem emptyFragment_eq {b : Block} (h : b.output = b.node.output? p.registry) :
    emptyFragment b = b.node.emptyFragment p.registry := by
  cases houtput : b.output <;> simp only [emptyFragment, Node.emptyFragment, ← h, houtput]

theorem refuses_eq {b child : Block} {t : Tree} (h : child.output = t.output? p.registry)
    (input : String) : p.refuses b input child = t.refusedBy p.registry b.kind input := by
  unfold refuses Tree.refusedBy definition?
  rw [h, Registry.shape?, Option.bind_map]
  rfl

/-- The kinds of all blocks say whether they have a value, and of which tag. -/
def HasOutputs (p : Program) : Prop :=
  ∀ r b, p.workspace.block? r = some b → b.output = b.node.output? p.registry

/-- The code of blocks is that of the trees at them, if these have at most `levels` levels. -/
def FollowsTrees (p : Program) (levels : Nat) (inner : Ref → Gen Fragment) : Prop :=
  ∀ depth r t, depth ≤ p.workspace.size → p.workspace.treeWithin depth (some r) = some t →
    t.levels ≤ levels → inner r = (t.fragment p.registry p.options).toGen

variable {levels depth : Nat} {inner : Ref → Gen Fragment}

theorem valueCode_eq (houtputs : p.HasOutputs) (hinner : p.FollowsTrees levels inner)
    (hdepth : depth ≤ p.workspace.size) {b : Block} {values : List (String × Tree)}
    (hvalues : ∀ name, (b.values.get? name).map (p.workspace.treeWithin depth) =
      (values.lookup name).map some) (hlevels : Tree.levelsOfInputs values ≤ levels)
    (bodies : List (String × Naming String)) (input : String) (outer : Precedence) :
    p.valueCode inner b input outer =
      ((b.node.parts p.registry p.options (Tree.inputFragments p.registry p.options b.kind values)
        bodies).value input outer).toGen := by
  have hinput := hvalues input
  unfold valueCode Node.parts Block.valueInput
  dsimp only
  rw [Tree.lookup_inputFragments]
  cases hget : b.values.get? input with
  | none =>
    rw [hget, Option.map_none] at hinput
    rw [Option.map_eq_none_iff.1 hinput.symm]
    rfl
  | some held =>
    rw [hget, Option.map_some] at hinput
    obtain ⟨t, ht, htree⟩ := Option.map_eq_some_iff.1 hinput.symm
    rw [ht]
    cases held with
    | none =>
      rw [Workspace.treeWithin_none] at htree
      cases htree
      simp only [Option.map_some, Tree.fragment, ite_self]
      rfl
    | some r =>
      obtain ⟨_, child, _, _, _, -, hchild, -, -, -, heq⟩ := Workspace.treeWithin_some htree.symm
      have hrefuses : p.refuses b input child = t.refusedBy p.registry b.kind input :=
        refuses_eq (by rw [houtputs r child hchild, heq]; rfl) input
      simp only [Option.join_some, block, hchild, pure_bind, hrefuses,
        hinner depth r t hdepth htree.symm (Tree.levels_le_of_lookup hlevels ht), Option.map_some,
        Option.getD_some]
      split
      · rfl
      · rw [Naming.toGen_bind]
        refine bind_congr fun f => ?_
        cases f with
        | statement code => rfl
        | value code precedence =>
          simp only [Fragment.codeIn?]
          split <;> rfl

theorem blocksCode_eq (hinner : p.FollowsTrees levels inner) : ∀ {depth limit : Nat}
    {head : Option Ref} {t : Tree}, depth ≤ p.workspace.size → depth ≤ limit →
      p.workspace.treeWithin depth head = some t → t.levels ≤ levels →
      blocksCode inner ((p.workspace.chain limit head).map Prod.fst) =
        (t.codes p.registry p.options).toGen
  | _, limit, none, t, _, _, htree, _ => by
    rw [Workspace.treeWithin_none] at htree
    cases htree
    cases limit <;> rfl
  | _, limit, some r, t, hdepth, hlimit, htree, hlevels => by
    obtain ⟨d, b, values, statements, next, rfl, hb, -, -, hnext, rfl⟩ :=
      Workspace.treeWithin_some htree
    obtain ⟨limit, rfl⟩ := Nat.exists_eq_succ_of_ne_zero (show limit ≠ 0 by omega)
    have hchain : p.workspace.chain (limit + 1) (some r) =
        (r, b) :: p.workspace.chain limit b.next := by
      rw [Workspace.chain, hb]
    have hhead := hinner _ r _ hdepth htree hlevels
    rw [Tree.levels] at hlevels
    have hrest := blocksCode_eq hinner (Nat.le_of_succ_le hdepth) (Nat.le_of_succ_le_succ hlimit)
      hnext (by omega)
    rw [hchain, List.map_cons, blocksCode, hhead, hrest, Tree.codes, Tree.fragment]
    rfl

theorem bodyCode_eq (hinner : p.FollowsTrees levels inner) (hdepth : depth ≤ p.workspace.size)
    {b : Block} {statements : List (String × Tree)}
    (hstatements : ∀ name, (b.statements.get? name).map (p.workspace.treeWithin depth) =
      (statements.lookup name).map some)
    (hlevels : Tree.levelsOfInputs statements ≤ levels) (values : List (String × Naming Fragment))
    (input : String) :
    p.bodyCode inner b input =
      ((b.node.parts p.registry p.options values
        (Tree.inputBodies p.registry p.options statements)).body input).toGen := by
  have hinput := hstatements input
  unfold bodyCode Node.parts Block.statementInput
  dsimp only
  rw [Tree.lookup_inputBodies]
  cases hget : b.statements.get? input with
  | none =>
    rw [hget, Option.map_none] at hinput
    rw [Option.map_eq_none_iff.1 hinput.symm]
    rfl
  | some held =>
    rw [hget, Option.map_some] at hinput
    obtain ⟨t, ht, htree⟩ := Option.map_eq_some_iff.1 hinput.symm
    rw [ht]
    cases held with
    | none =>
      rw [Workspace.treeWithin_none] at htree
      cases htree
      simp only [Option.map_some, Tree.codes]
      rfl
    | some r =>
      rw [Option.join_some, Option.map_some, Option.getD_some, indented, Naming.toGen_bind,
        ← blocksCode_eq hinner hdepth hdepth htree.symm (Tree.levels_le_of_lookup hlevels ht)]
      simp only [chainCode, bind_assoc, pure_bind]
      rfl

theorem applyRule_eq {b : Block} {parts : Parts} (h : parts.Answer p inner b)
    (houtput : b.output = b.node.output? p.registry) (rule : Rule) :
    p.applyRule p.variableField inner b rule = (b.node.applyRule p.registry parts rule).toGen := by
  cases rule with
  | statement plan =>
    rw [applyRule, interpret_eq h, Node.applyRule, Naming.toGen_bind]
    refine bind_congr fun result => ?_
    cases result <;> rfl
  | value plan =>
    rw [applyRule, interpret_eq h, Node.applyRule, Naming.toGen_bind, emptyFragment_eq houtput]
    refine bind_congr fun result => ?_
    cases result <;> rfl

/-- The code of a block is that of the tree at it. -/
theorem fragmentWithin_eq (houtputs : p.HasOutputs) : ∀ levels : Nat,
    p.FollowsTrees levels (p.fragmentWithin levels)
  | 0, depth, r, t, _, htree, hlevels => by
    obtain ⟨_, _, _, _, _, -, -, -, -, -, rfl⟩ := Workspace.treeWithin_some htree
    rw [Tree.levels] at hlevels
    exact absurd hlevels (by omega)
  | levels + 1, depth, r, t, hdepth, htree, hlevels => by
    obtain ⟨d, b, values, statements, next, rfl, hb, hvalues, hstatements, -, rfl⟩ :=
      Workspace.treeWithin_some htree
    have hinner := fragmentWithin_eq houtputs levels
    rw [Tree.levels] at hlevels
    have hanswer : (b.node.parts p.registry p.options
        (Tree.inputFragments p.registry p.options b.kind values)
        (Tree.inputBodies p.registry p.options statements)).Answer p
          (p.fragmentWithin levels) b := {
      id := rfl
      kind := rfl
      value := valueCode_eq houtputs hinner (by omega) (fun name => lookup_mapM name hvalues)
        (by omega) _
      body := bodyCode_eq hinner (by omega) (fun name => lookup_mapM name hstatements)
        (by omega) _
      identifier := p.variableField_eq b
      text := p.fieldText_eq b
      number := p.fieldNumber_eq b
      call := fun args => rfl }
    have houtput := houtputs r b hb
    rw [fragmentWithin_succ, fragmentStep, block, hb, Tree.fragment, Node.fragment]
    simp only [pure_bind, emptyFragment_eq houtput, definition?, applyRule_eq hanswer houtput]
    cases b.enabled
    · rfl
    · cases p.registry.get? b.kind <;> rfl

theorem topCode_eq (houtputs : p.HasOutputs) (hinner : p.FollowsTrees levels inner) :
    ∀ {top : List Ref} {forest : List Tree},
      (top.mapM fun r => p.workspace.treeWithin p.workspace.size (some r)) = some forest →
      (∀ t ∈ forest, t.levels ≤ levels) →
      p.topCode inner top = (Tree.topCodes p.registry p.options forest).toGen
  | [], forest, h, _ => by
    cases h
    rfl
  | head :: rest, forest, h, hlevels => by
    obtain ⟨t, ht, forest, hforest, rfl⟩ := mapM_cons_eq_some_iff.1 h
    rw [List.forall_mem_cons] at hlevels
    obtain ⟨_, b, _, _, _, -, hb, -, -, -, heq⟩ := Workspace.treeWithin_some ht
    have hstatement : b.isStatement = (t.output? p.registry).isNone := by
      rw [Block.isStatement, houtputs head b hb, heq]
      rfl
    rw [topCode, block, hb, pure_bind, hstatement, topCode_eq houtputs hinner hforest hlevels.2,
      Tree.topCodes, chainCode,
      blocksCode_eq hinner (Nat.le_refl _) (Nat.le_refl _) ht hlevels.1]
    split
    · simp only [bind_assoc, pure_bind]
      rfl
    · rfl

/-- As many levels as the forest has are enough. -/
theorem scriptWithin_eq_forestScript (houtputs : p.HasOutputs) {forest : List Tree}
    (hforest : p.workspace.forest? = some forest) (hlevels : ∀ t ∈ forest, t.levels ≤ levels) :
    p.scriptWithin levels =
      .ok (forestScript p.registry p.options p.workspace.declared forest) := by
  rw [scriptWithin, runFresh,
    topCode_eq houtputs (fragmentWithin_eq houtputs levels) hforest hlevels]
  rfl

theorem levels_le_maxLevels {forest : List Tree} (hforest : p.workspace.forest? = some forest) :
    ∀ t ∈ forest, t.levels ≤ p.maxLevels := by
  intro t ht
  obtain ⟨r, -, htree⟩ := exists_of_mem_mapM hforest ht
  exact Nat.le_succ_of_le (Workspace.levels_le_of_treeWithin (some r) t htree)

/-- **The script of a workspace is the script of its forest.** -/
theorem script_eq_forestScript (houtputs : p.HasOutputs) {forest : List Tree}
    (hforest : p.workspace.forest? = some forest) :
    p.script = .ok (forestScript p.registry p.options p.workspace.declared forest) :=
  scriptWithin_eq_forestScript houtputs hforest (levels_le_maxLevels hforest)

end Program

end SceneScript
