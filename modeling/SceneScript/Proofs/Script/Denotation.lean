import SceneScript.Proofs.Parsed
import SceneScript.Proofs.Script.Rules

/-!
# Scripts mean their forests

* `Tree.Typed`: values are in inputs for values, and statements are in chains.
* `agrees_fragment`, `agrees_codes`: the code of a tree has the meaning of the tree.
* **`read_script_eq_meaning`**: the script of a workspace reads as what its forest means.
-/

namespace SceneScript

/-! ## Typed trees -/

namespace Tree

mutual

/-- A tree of standard kinds has values in the inputs for values and statements in its chains. -/
def Typed (statement : Bool) : Tree → Prop
  | none => True
  | block _ kind _ _ values statements next =>
    (∃ shape, Registry.standard.shape? kind = some shape ∧ shape.isStatement = statement) ∧
      TypedInputs false values ∧ TypedInputs true statements ∧ next.Typed true

/-- Everything in a list of inputs is typed. -/
def TypedInputs (statement : Bool) : List (String × Tree) → Prop
  | [] => True
  | (_, t) :: rest => t.Typed statement ∧ TypedInputs statement rest

end

theorem typedInputs_iff {statement : Bool} : ∀ {inputs : List (String × Tree)},
    TypedInputs statement inputs ↔ ∀ entry ∈ inputs, entry.2.Typed statement
  | [] => by simp [TypedInputs]
  | (input, t) :: rest => by rw [TypedInputs, List.forall_mem_cons, typedInputs_iff]

end Tree

namespace Workspace

variable {w : Workspace}

/-- The trees of a well-linked workspace are typed. -/
theorem WellLinked.typed (hw : w.WellLinked Registry.standard.shape?) : ∀ {depth : Nat} {r : Ref}
    {b : Block} {t : Tree}, w.block? r = some b → w.treeWithin depth (some r) = some t →
      t.Typed b.isStatement
  | 0, _, _, _, _, h => by cases h
  | depth + 1, r, b, t, hb, h => by
    obtain ⟨d, b', values, statements, next, hdepth, hb', hvalues, hstatements, hnext, rfl⟩ :=
      treeWithin_some h
    cases hdepth
    rw [hb] at hb'
    cases hb'
    obtain ⟨shape, hkind, hshape⟩ := hw.has_shape r b hb
    -- Every place of the block is empty or holds a block of which the induction hypothesis speaks.
    have hheld : ∀ {statement : Bool} {held : Option Ref} {t : Tree},
        (∀ s, held = some s → ∃ c, w.block? s = some c ∧ c.isStatement = statement) →
          w.treeWithin depth held = some t → t.Typed statement := by
      intro statement held t hblock htree
      cases held with
      | none =>
        rw [treeWithin_none] at htree
        cases htree
        trivial
      | some s =>
        obtain ⟨c, hc, rfl⟩ := hblock s rfl
        exact hw.typed hc htree
    refine ⟨⟨shape, hkind, ?_⟩, Tree.typedInputs_iff.2 fun entry hentry => ?_,
      Tree.typedInputs_iff.2 fun entry hentry => ?_, ?_⟩
    · rw [Shape.isStatement, Block.isStatement, hshape.output]
    · obtain ⟨held, hinput, hentry⟩ := exists_of_mem_mapM hvalues hentry
      obtain ⟨t, ht, ⟨⟩⟩ := Option.bind_eq_some_iff.1 hentry
      refine hheld (fun s hs => hw.expression_in_value r b held.1 s hb ?_) ht
      rw [Block.valueInput, Dict.get?_eq_some_iff.2 hinput, hs, Option.join_some]
    · obtain ⟨held, hinput, hentry⟩ := exists_of_mem_mapM hstatements hentry
      obtain ⟨t, ht, ⟨⟩⟩ := Option.bind_eq_some_iff.1 hentry
      refine hheld (fun s hs => hw.statement_in_statements r b held.1 s hb ?_) ht
      rw [Block.statementInput, Dict.get?_eq_some_iff.2 hinput, hs, Option.join_some]
    · exact hheld (fun s hs => hw.statement_below r b s hb hs) hnext

end Workspace

/-! ## Blocks -/

namespace Script

variable {runtime : String}

/-- The fragment of a value is the code of an expression, or empty if there is none. -/
def CodesFragment (runtime : String) (f : Fragment) : Option Expr → Prop
  | some e => ∃ code, f = .value code .atomic ∧ Codes runtime code e
  | none => f.code = ""

/-- The fragment of a statement is the code of its statements. -/
def WritesFragment (runtime : String) (f : Fragment) (body : List Stmt) : Prop :=
  Writes runtime f.code body

theorem wrap_atomic (code : String) (outer : Precedence) :
    Precedence.atomic.wrap code outer = code := by
  have hparens : Precedence.atomic.needsParens outer = false := by cases outer <;> rfl
  rw [Precedence.wrap, hparens, Bool.not_false, Bool.or_true, if_pos rfl]

/-- The code of a value in an input is that of an expression. -/
theorem CodesFragment.codeIn? {f : Fragment} {e : Option Expr} (h : CodesFragment runtime f e)
    (outer : Precedence) : Option.Rel (Codes runtime) (f.codeIn? outer) e := by
  cases e with
  | some e =>
    obtain ⟨code, rfl, hcode⟩ := h
    rw [Fragment.codeIn?, hcode.isEmpty_eq_false, wrap_atomic, if_neg (by decide)]
    exact .some hcode
  | none =>
    cases f with
    | statement code => exact .none
    | value code precedence =>
      have hcode : code = "" := h
      rw [hcode]
      exact .none

variable {options : ScriptOptions} {node : Node} {inputs : Inputs}
  {values : List (String × Naming Fragment)} {bodies : List (String × Naming String)}

/-- What a rule asks for is answered by the code in the inputs. -/
theorem answers_parts
    (hvalues : ∀ input, Agrees (CodesFragment options.runtime)
      ((values.lookup input).getD (pure (.statement ""))) (inputs.value input).run)
    (hbodies : ∀ input, Agrees (Writes options.runtime) ((bodies.lookup input).getD (pure ""))
      (inputs.body input)) :
    Answers options.runtime node inputs (node.parts .standard options values bodies) where
  id := rfl
  kind := rfl
  value := fun input outer => by
    have hcode := (hvalues input).bind fun f e hf => agrees_pure (hf.codeIn? outer)
    rwa [bind_pure] at hcode
  body := hbodies
  identifier := fun _ => rfl
  text := fun _ => rfl
  number := fun _ => rfl
  call := fun d op hd hop args => by
    simp only [Node.parts, hd, Option.bind_some, hop]

theorem agrees_applyRule_value {parts : Parts} {plan : Plan (String × Precedence)}
    {m : Optional Expr} (h : plan.Agrees parts (CodesValue runtime) m) :
    Agrees (CodesFragment runtime) (node.applyRule .standard parts (.value plan)) m.run := by
  rw [Node.applyRule, ← bind_pure m.run]
  refine Agrees.bind h fun result e hresult => ?_
  cases hresult with
  | none => exact agrees_pure (node.code_emptyFragment .standard)
  | @some result e hresult =>
    obtain ⟨code, precedence⟩ := result
    obtain ⟨rfl, hcode⟩ := hresult
    exact agrees_pure ⟨code, rfl, hcode⟩

theorem agrees_applyRule_statement {parts : Parts} {plan : Plan String} {m : Optional (List Stmt)}
    (h : plan.Agrees parts (Writes runtime) m) :
    Agrees (WritesFragment runtime) (node.applyRule .standard parts (.statement plan))
      (do return (← m.run).getD []) := by
  rw [Node.applyRule]
  refine Agrees.bind h fun result body hresult => ?_
  cases hresult with
  | none => exact agrees_pure writes_nil
  | some hresult => exact agrees_pure hresult

section Blocks

variable (hruntime : FreeName options.runtime)
  (h : Answers options.runtime node inputs (node.parts .standard options values bodies))
  {shape : Shape} (hkind : Registry.standard.shape? node.kind = some shape) (enabled : Bool)

include hruntime h hkind

theorem agrees_value (hshape : shape.isStatement = false) :
    Agrees (CodesFragment options.runtime)
      (node.fragment .standard options enabled values bodies)
      (if enabled then valueOf options.runtime node inputs else failure : Optional Expr).run := by
  obtain ⟨d, hd, rfl⟩ := Option.map_eq_some_iff.1 hkind
  have hrule := agrees_standard hruntime h hd
  have hstatement := Registry.isStatement_of_mem_standard d (Registry.mem_of_get? hd)
  cases enabled with
  | false => exact agrees_pure (node.code_emptyFragment .standard)
  | true =>
    simp only [Node.fragment, Bool.not_true, Bool.false_eq_true, if_false, if_true, hd]
    cases hplan : d.rule with
    | statement plan =>
      rw [hshape, hplan] at hstatement
      cases hstatement
    | value plan =>
      rw [hplan] at hrule
      exact agrees_applyRule_value hrule

theorem agrees_statements (hshape : shape.isStatement = true) :
    Agrees (WritesFragment options.runtime)
      (node.fragment .standard options enabled values bodies)
      (blockStatements options.runtime node enabled inputs) := by
  obtain ⟨d, hd, rfl⟩ := Option.map_eq_some_iff.1 hkind
  have hrule := agrees_standard hruntime h hd
  have hstatement := Registry.isStatement_of_mem_standard d (Registry.mem_of_get? hd)
  cases enabled with
  | false =>
    refine agrees_pure ?_
    rw [WritesFragment, Node.code_emptyFragment]
    exact writes_nil
  | true =>
    simp only [Node.fragment, blockStatements, Bool.not_true, Bool.false_eq_true, if_false, if_true,
      hd]
    cases hplan : d.rule with
    | statement plan =>
      rw [hplan] at hrule
      exact agrees_applyRule_statement hrule
    | value plan =>
      rw [hshape, hplan] at hstatement
      cases hstatement

end Blocks

/-! ## Trees -/

mutual

/-- **The code of a tree's block has the value of the block.** -/
theorem agrees_fragment (hruntime : FreeName options.runtime) (hindent : Margin options.indent) :
    ∀ t : Tree, t.Typed false →
    Agrees (CodesFragment options.runtime) (t.fragment .standard options) (t.value options).run
  | .none, _ => by
    rw [Tree.fragment, Tree.value]
    exact agrees_pure rfl
  | .block id kind enabled fields values statements next, htyped => by
    obtain ⟨⟨shape, hkind, hshape⟩, hvalues, hstatements, -⟩ := htyped
    rw [Tree.fragment, Tree.value]
    refine agrees_value hruntime (answers_parts ?_ ?_) hkind enabled hshape
    · exact agrees_inputFragments hruntime hindent values hvalues kind
    · exact agrees_inputBodies hruntime hindent statements hstatements

/-- **The code of a tree's chain has the statements of the chain.** -/
theorem agrees_codes (hruntime : FreeName options.runtime) (hindent : Margin options.indent) :
    ∀ t : Tree, t.Typed true →
    Agrees (WritesAll options.runtime) (t.codes .standard options) (t.statements options)
  | .none, _ => by
    rw [Tree.codes, Tree.statements]
    exact agrees_pure .nil
  | .block id kind enabled fields values statements next, htyped => by
    obtain ⟨⟨shape, hkind, hshape⟩, hvalues, hstatements, hnext⟩ := htyped
    rw [Tree.codes, Tree.statements]
    refine (agrees_statements hruntime (answers_parts ?_ ?_) hkind enabled hshape).bind
      fun f body hbody => ?_
    · exact agrees_inputFragments hruntime hindent values hvalues kind
    · exact agrees_inputBodies hruntime hindent statements hstatements
    · refine (agrees_codes hruntime hindent next hnext).bind fun codes rest hrest =>
        agrees_pure (hrest.cons_of_writes hbody)

theorem agrees_inputFragments (hruntime : FreeName options.runtime)
    (hindent : Margin options.indent) :
    ∀ values : List (String × Tree), Tree.TypedInputs false values → ∀ kind input : String,
      Agrees (CodesFragment options.runtime)
      (((Tree.inputFragments .standard options kind values).lookup input).getD
        (pure (.statement "")))
      (((Tree.inputValues options kind values).lookup input).getD failure : Optional Expr).run
  | [], _, kind, input => by
    rw [Tree.inputFragments, Tree.inputValues]
    exact agrees_pure rfl
  | (name, t) :: rest, htyped, kind, input => by
    rw [Tree.inputFragments, Tree.inputValues, List.lookup_cons, List.lookup_cons]
    cases input == name
    · exact agrees_inputFragments hruntime hindent rest htyped.2 kind input
    · dsimp only [Option.getD_some]
      split
      · exact agrees_pure rfl
      · exact agrees_fragment hruntime hindent t htyped.1

theorem agrees_inputBodies (hruntime : FreeName options.runtime) (hindent : Margin options.indent) :
    ∀ statements : List (String × Tree),
    Tree.TypedInputs true statements → ∀ input : String, Agrees (Writes options.runtime)
      (((Tree.inputBodies .standard options statements).lookup input).getD (pure ""))
      (((Tree.inputStatements options statements).lookup input).getD (pure []))
  | [], _, input => by
    rw [Tree.inputBodies, Tree.inputStatements]
    exact agrees_pure writes_nil
  | (name, t) :: rest, htyped, input => by
    rw [Tree.inputBodies, Tree.inputStatements, List.lookup_cons, List.lookup_cons]
    cases input == name
    · exact agrees_inputBodies hruntime hindent rest htyped.2 input
    · have hcodes := (agrees_codes hruntime hindent t htyped.1).bind fun codes body hbody =>
        agrees_pure (hbody.writes.indent hindent)
      rwa [bind_pure] at hcodes

end

end Script

open Script

namespace Workspace.WellLinked

variable {w : Workspace} (hw : w.WellLinked Registry.standard.shape?)

include hw

/-- The trees of the forest are chains of statements or expressions that hang nowhere. -/
theorem typed_forest {forest : List Tree} (hforest : w.forest? = some forest) :
    ∀ t ∈ forest, t.Typed (t.output? .standard).isNone := by
  intro t ht
  obtain ⟨r, -, htree⟩ := exists_of_mem_mapM hforest ht
  obtain ⟨_, b, _, _, _, -, hb, -, -, -, rfl⟩ := treeWithin_some htree
  have houtput : b.output = b.node.output? .standard := hw.hasOutputs {} r b hb
  have htyped := hw.typed hb htree
  rwa [Block.isStatement, houtput] at htyped

end Workspace.WellLinked

end SceneScript
