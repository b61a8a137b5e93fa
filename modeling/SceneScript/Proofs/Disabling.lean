import SceneScript.Proofs.Increments
import SceneScript.Proofs.Removal

/-!
# Disabling a block

A block that is not enabled contributes nothing, and neither does anything in its inputs: no name is
handed out for it. What asks for its value finds an input that might as well be empty, and its chain
goes on below it. So disabling a block is taking it out.

* `Workspace.disable`, `Tree.disabled`: a workspace, a tree with a block that is not enabled.
* `Tree.codes_disabled`: the code of a chain with a block disabled is that without the block.
* `Tree.IsChain`: all blocks of a chain are statements.
* **`script_disabled_eq_script_without`**: disabling a block is taking it out.
-/

namespace SceneScript

/-! ## Trees with a disabled block -/

namespace Tree

mutual

/-- The tree with the block of an id disabled. -/
def disabled (id : String) : Tree → Tree
  | none => none
  | block id' kind enabled fields values statements next =>
    block id' kind (enabled && id' != id) fields (inputsDisabled id values)
      (inputsDisabled id statements) (next.disabled id)

/-- What is in inputs with the block of an id disabled. -/
def inputsDisabled (id : String) : List (String × Tree) → List (String × Tree)
  | [] => []
  | (input, t) :: rest => (input, t.disabled id) :: inputsDisabled id rest

end

theorem inputsDisabled_eq_map (id : String) : ∀ inputs : List (String × Tree),
    inputsDisabled id inputs = inputs.map fun entry => (entry.1, entry.2.disabled id)
  | [] => rfl
  | (_, _) :: rest => by rw [inputsDisabled, inputsDisabled_eq_map id rest, List.map_cons]

theorem output?_disabled {registry : Registry} (id : String) (t : Tree) :
    (t.disabled id).output? registry = t.output? registry := by
  cases t <;> rfl

theorem output?_without {registry : Registry} {id : String} {t : Tree} (h : t.hasId id = false) :
    (t.without id).output? registry = t.output? registry := by
  cases t with
  | none => rfl
  | block id' =>
    rw [without, if_neg (beq_eq_false_iff_ne.1 h)]
    rfl

end Tree

theorem Fragment.codeIn?_of_code_eq {f : Fragment} (h : f.code = "") (outer : Precedence) :
    f.codeIn? outer = none := by
  cases f with
  | statement code => rfl
  | value code precedence => exact if_pos (String.isEmpty_iff.2 h)

theorem Node.fragment_congr {registry : Registry} {options : ScriptOptions} {node : Node}
    {values values' : List (String × Naming Fragment)}
    {bodies bodies' : List (String × Naming String)}
    (h : node.parts registry options values bodies = node.parts registry options values' bodies')
    (enabled : Bool) :
    node.fragment registry options enabled values bodies =
      node.fragment registry options enabled values' bodies' := by
  rw [fragment, fragment, h]

namespace Tree

variable (registry : Registry) (options : ScriptOptions) (id : String)

/-- The code of a tree with a block disabled is that of the tree without the block. -/
structure DisabledAsWithout (t : Tree) : Prop where
  codes : (t.disabled id).codes registry options = (t.without id).codes registry options
  fragment : t.hasId id = false →
    (t.disabled id).fragment registry options = (t.without id).fragment registry options

variable {registry options id}

variable (registry options) in
/-- A disabled block contributes nothing, whatever is in its inputs. -/
theorem exists_fragment_disabled {t : Tree} (h : t.hasId id = true) :
    ∃ f : Fragment, f.code = "" ∧ (t.disabled id).fragment registry options = pure f := by
  cases t with
  | none => cases h
  | block id' kind enabled fields values statements next =>
    refine ⟨_, Node.code_emptyFragment registry ⟨id', kind, fields⟩, ?_⟩
    have hdisabled : (enabled && id' != id) = false := by simp [beq_iff_eq.1 h]
    rw [disabled, fragment, hdisabled]
    rfl

section Parts

variable {values statements : List (String × Tree)}
  (hvalues : ∀ entry ∈ values, entry.2.DisabledAsWithout registry options id)
  (hstatements : ∀ entry ∈ statements, entry.2.DisabledAsWithout registry options id)

include hvalues in
/-- A disabled value is like an empty input. -/
theorem value_parts_disabled (node : Node) (kind : String)
    (bodies : List (String × Naming String)) (input : String) (outer : Precedence) :
    (node.parts registry options (inputFragments registry options kind (inputsDisabled id values))
        bodies).value input outer =
      (node.parts registry options (inputFragments registry options kind (valuesWithout id values))
        bodies).value input outer := by
  unfold Node.parts
  dsimp only
  rw [lookup_inputFragments, lookup_inputFragments, inputsDisabled_eq_map, valuesWithout_eq_map,
    Dict.lookup_map_snd,
    Dict.lookup_map_snd fun t : Tree => if t.hasId id then Tree.none else t.without id]
  cases hlookup : values.lookup input with
  | none => rfl
  | some t =>
    simp only [Option.map_some, Option.getD_some]
    cases hid : t.hasId id with
    | false =>
      have hrefused : (t.disabled id).refusedBy registry kind input =
          (t.without id).refusedBy registry kind input := by
        unfold refusedBy
        rw [output?_disabled, output?_without hid]
      rw [hrefused, (hvalues _ (Dict.mem_of_lookup hlookup)).fragment hid]
      rfl
    | true =>
      obtain ⟨f, hf, hfragment⟩ := exists_fragment_disabled registry options hid
      simp only [hfragment, if_true, fragment, ite_self]
      split_ifs
      · rfl
      · rw [pure_bind, Fragment.codeIn?_of_code_eq hf outer]
        rfl

include hstatements in
theorem inputBodies_disabled : inputBodies registry options (inputsDisabled id statements) =
    inputBodies registry options (statementsWithout id statements) := by
  induction statements with
  | nil => rfl
  | cons entry rest ih =>
    rw [List.forall_mem_cons] at hstatements
    rw [inputsDisabled, inputBodies, statementsWithout, inputBodies, hstatements.1.codes,
      ih hstatements.2]

include hvalues hstatements in
theorem parts_disabled (node : Node) (kind : String) :
    node.parts registry options (inputFragments registry options kind (inputsDisabled id values))
        (inputBodies registry options (inputsDisabled id statements)) =
      node.parts registry options (inputFragments registry options kind (valuesWithout id values))
        (inputBodies registry options (statementsWithout id statements)) := by
  rw [inputBodies_disabled hstatements]
  generalize inputBodies registry options (statementsWithout id statements) = bodies
  have hvalue := funext fun input => funext fun outer =>
    value_parts_disabled hvalues node kind bodies input outer
  exact congrArg (fun value => ({ node.parts registry options [] bodies with value } : Parts))
    hvalue

end Parts

mutual

theorem disabledAsWithout : ∀ t : Tree, t.DisabledAsWithout registry options id
  | none => ⟨rfl, fun _ => rfl⟩
  | block id' kind enabled fields values statements next => by
    have hparts := parts_disabled (disabledAsWithout_inputs values)
      (disabledAsWithout_inputs statements) ⟨id', kind, fields⟩ kind
    have hnext := (disabledAsWithout next).codes
    by_cases hid : id' = id
    · have hdisabled : (enabled && id' != id) = false := by simp [hid]
      refine ⟨?_, fun h => absurd hid (beq_eq_false_iff_ne.1 h)⟩
      rw [disabled, codes, without, if_pos hid, hdisabled, hnext]
      have hempty : ((⟨id', kind, fields⟩ : Node).emptyFragment registry).isEmpty = true :=
        String.isEmpty_iff.2 (Node.code_emptyFragment registry _)
      simp only [Node.fragment, Bool.not_false, if_true, pure_bind, hempty, bind_pure]
    · have hsame : (enabled && id' != id) = enabled := by simp [hid]
      have hfragment := Node.fragment_congr hparts enabled
      constructor
      · rw [disabled, without, if_neg hid, hsame, codes, codes, hfragment, hnext]
      · rw [disabled, without, if_neg hid, hsame, fragment, fragment, hfragment]
        exact fun _ => rfl

theorem disabledAsWithout_inputs : ∀ inputs : List (String × Tree),
    ∀ entry ∈ inputs, entry.2.DisabledAsWithout registry options id
  | [], _, h => by cases h
  | (_, t) :: rest, entry, h => by
    rcases List.mem_cons.1 h with rfl | h
    · exact disabledAsWithout t
    · exact disabledAsWithout_inputs rest entry h

end

/-! ## Forests with a disabled block -/

/-- All blocks of a chain are statements. -/
def IsChain (registry : Registry) : Tree → Prop
  | none => True
  | block _ kind _ _ _ _ next =>
    ((registry.shape? kind).bind Shape.output).isNone = true ∧ next.IsChain registry

/-- A single value, with nothing below it. -/
def IsValue (registry : Registry) : Tree → Prop
  | none => False
  | block _ kind _ _ _ _ next =>
    ((registry.shape? kind).bind Shape.output).isNone = false ∧ next = none

theorem isNone_output?_of_isChain {t : Tree} (h : t.IsChain registry) :
    (t.output? registry).isNone = true := by
  cases t with
  | none => rfl
  | block => exact h.1

theorem isChain_without : ∀ {t : Tree}, t.IsChain registry → (t.without id).IsChain registry
  | none, h => h
  | block id' kind enabled fields values statements next, h => by
    rw [without]
    split_ifs
    · exact isChain_without h.2
    · exact ⟨h.1, isChain_without h.2⟩

theorem flatCodes_disabled : ∀ {forest : List Tree},
    (∀ t ∈ forest, t.IsChain registry ∨ t.IsValue registry) →
      flatCodes registry options (forest.map (disabled id)) =
        flatCodes registry options (forestWithout id forest)
  | [], _ => rfl
  | t :: forest, h => by
    rw [List.forall_mem_cons] at h
    have hrest := flatCodes_disabled h.2
    rw [List.map_cons, flatCodes, output?_disabled, hrest, forestWithout_cons]
    rcases h.1 with hchain | hvalue
    · rw [isNone_output?_of_isChain hchain, if_pos rfl, (disabledAsWithout t).codes]
      have hkept : (t.without id).IsChain registry := isChain_without hchain
      cases hwithout : t.without id with
      | none => simp only [isBlock, Bool.false_eq_true, if_false, codes, pure_bind, List.nil_append,
          bind_pure]
      | block id' kind enabled fields values statements next =>
        rw [hwithout] at hkept
        rw [isBlock, if_pos rfl, flatCodes, isNone_output?_of_isChain hkept, if_pos rfl]
    · cases t with
      | none => exact hvalue.elim
      | block id' kind enabled fields values statements next =>
        obtain ⟨houtput, rfl⟩ := hvalue
        rw [output?, houtput, if_neg Bool.false_ne_true, without]
        by_cases hid : id' = id
        · rw [if_pos hid, without, isBlock, if_neg Bool.false_ne_true]
        · rw [if_neg hid, isBlock, if_pos rfl, flatCodes, output?, houtput,
            if_neg Bool.false_ne_true]

end Tree

/-! ## Workspaces with a disabled block -/

/-- The workspace with a block disabled. -/
def Workspace.disable (w : Workspace) (r : Ref) : Workspace :=
  w.modify r fun b => { b with enabled := false }

namespace Workspace

variable {w : Workspace} {r s : Ref} {c gone : Block}

theorem size_disable : (w.disable r).size = w.size := Array.size_modify

theorem block?_disable : (w.disable r).block? s =
    (w.block? s).map fun c => { c with enabled := c.enabled && s != r } := by
  unfold disable modify block?
  rw [Array.getElem?_modify]
  by_cases h : r = s
  · simp [h]
  · have hne : (s != r) = true := bne_iff_ne.2 (Ne.symm h)
    cases w.blocks[s]? <;> simp [h, hne]

section WellLinked

variable {registry : Registry} (hw : w.WellLinked registry.shape?)

include hw

/-- The tree at a reference, with a block disabled. -/
theorem treeWithin_disable (hgone : w.block? r = some gone) : ∀ {d : Nat} {head : Option Ref}
    {t : Tree}, w.treeWithin d head = some t →
      (w.disable r).treeWithin d head = some (t.disabled gone.id)
  | d, none, t, h => by
    rw [treeWithin_none] at h
    cases h
    exact treeWithin_none _ d
  | 0, some s, _, h => by cases h
  | d + 1, some s, t, h => by
    obtain ⟨_, c, values, statements, next, ⟨⟩, hc, hvalues, hstatements, hnext, rfl⟩ :=
      treeWithin_some h
    have hid : (s != r) = (c.id != gone.id) := by
      rw [bne, bne, Bool.not_inj_iff, Bool.eq_iff_iff, beq_iff_eq, beq_iff_eq]
      exact ⟨fun h => by cases h; cases hgone.symm.trans hc; rfl, hw.ref_eq_of_id hc hgone⟩
    have hblock : (w.disable r).block? s =
        some { c with enabled := c.enabled && c.id != gone.id } := by
      rw [block?_disable, hc, Option.map_some, hid]
    have hinputs : ∀ {dict : Dict (Option Ref)} {trees : List (String × Tree)},
        (dict.entries.mapM fun entry => do return (entry.1, ← w.treeWithin d entry.2)) =
          some trees →
        (dict.entries.mapM fun entry => do return (entry.1, ← (w.disable r).treeWithin d entry.2)) =
          some (Tree.inputsDisabled gone.id trees) := by
      intro dict trees htrees
      have hmap := mapM_map_entries ((w.disable r).treeWithin d) id (Tree.disabled gone.id) htrees
        fun _ _ _ => treeWithin_disable hgone
      rw [Tree.inputsDisabled_eq_map]
      simpa using hmap
    exact (treeWithin_of_block hblock (hinputs hvalues) (hinputs hstatements)
      (treeWithin_disable hgone hnext)).trans rfl

theorem forest?_disable (hgone : w.block? r = some gone) {forest : List Tree}
    (hforest : w.forest? = some forest) :
    (w.disable r).forest? = some (forest.map (Tree.disabled gone.id)) := by
  have hmap := mapM_map_eq_some (fun s => (w.disable r).treeWithin w.size (some s)) id
    (Tree.disabled gone.id) hforest fun _ _ _ => treeWithin_disable hw hgone
  rw [List.map_id] at hmap
  rw [forest?, size_disable]
  exact hmap

theorem isChain_of_treeWithin : ∀ {d : Nat} {head : Option Ref} {t : Tree},
    w.treeWithin d head = some t →
      (∀ s ∈ head, ∃ c, w.block? s = some c ∧ c.isStatement = true) → t.IsChain registry
  | _, none, t, h, _ => by
    rw [treeWithin_none] at h
    cases h
    trivial
  | 0, some _, _, h, _ => by cases h
  | d + 1, some s, t, h, hhead => by
    obtain ⟨_, c, values, statements, next, ⟨⟩, hc, -, -, hnext, rfl⟩ := treeWithin_some h
    obtain ⟨c', hc', hstatement⟩ := hhead s rfl
    cases hc.symm.trans hc'
    obtain ⟨shape, hkind, hshape⟩ := hw.has_shape s c hc
    refine ⟨?_, isChain_of_treeWithin hnext fun s' hs' => hw.statement_below s c s' hc hs'⟩
    rw [hkind, Option.bind_some, ← hshape.output]
    exact hstatement

/-- What is at the top is a chain of statements or a single value. -/
theorem isChain_or_isValue {d : Nat} {t : Tree} (h : w.treeWithin d (some s) = some t) :
    t.IsChain registry ∨ t.IsValue registry := by
  obtain ⟨d, c, values, statements, next, rfl, hc, -, -, hnext, rfl⟩ := treeWithin_some h
  cases hstatement : c.isStatement with
  | true =>
    left
    refine isChain_of_treeWithin hw h ?_
    rintro s' ⟨⟩
    exact ⟨c, hc, hstatement⟩
  | false =>
    right
    obtain ⟨shape, hkind, hshape⟩ := hw.has_shape s c hc
    have hbelow : c.next = none := by
      unfold Block.next
      unfold Block.isStatement Block.output at hstatement
      cases hlinkage : c.linkage with
      | statement previous next => simp [hlinkage] at hstatement
      | expression tag => rfl
    rw [hbelow, treeWithin_none] at hnext
    refine ⟨?_, (Option.some.inj hnext).symm⟩
    rw [hkind, Option.bind_some, ← hshape.output]
    exact hstatement

end WellLinked

end Workspace

/-! ## Scripts -/

section Scripts

variable {registry : Registry} {w : Workspace} (hw : w.WellLinked registry.shape?)
  (options : ScriptOptions) {forest : List Tree} (hforest : w.forest? = some forest) {r : Ref}
  {gone : Block} (hgone : w.block? r = some gone)

include hw

theorem hasOutputs_disable :
    ({ workspace := w.disable r, registry, options } : Program).HasOutputs := by
  intro s c hc
  have hc : (w.disable r).block? s = some c := hc
  rw [Workspace.block?_disable] at hc
  obtain ⟨d, hd, rfl⟩ := Option.map_eq_some_iff.1 hc
  exact hw.hasOutputs options s d hd

include hgone in
theorem hasOutputs_without :
    ({ workspace := w.without r, registry, options } : Program).HasOutputs := by
  intro s c hc
  obtain ⟨shape, hkind, houtput⟩ := hw.output_of_block?_without hgone hc
  have hkind : registry.shape? c.node.kind = some shape := hkind
  rw [Node.output?, hkind, houtput, Option.bind_some]

include hforest

/-- The statements of a workspace with a block disabled have the code of those without the block. -/
theorem flatCodes_disabled_of_forest? (id : String) :
    Tree.flatCodes registry options (forest.map (Tree.disabled id)) =
      Tree.flatCodes registry options (Tree.forestWithout id forest) := by
  refine Tree.flatCodes_disabled fun t ht => ?_
  obtain ⟨s, -, htree⟩ := exists_of_mem_mapM hforest ht
  exact Workspace.isChain_or_isValue hw htree

include hgone

theorem script_disable : ({ workspace := w.disable r, registry, options } : Program).script =
    .ok (forestScript registry options w.declared (forest.map (Tree.disabled gone.id))) :=
  Program.script_eq_forestScript (hasOutputs_disable hw options)
    (Workspace.forest?_disable hw hgone hforest)

theorem script_without (hforward : w.Forward) :
    ({ workspace := w.without r, registry, options } : Program).script =
      .ok (forestScript registry options w.declared (forest.map (Tree.disabled gone.id))) := by
  rw [Program.script_eq_forestScript (hasOutputs_without hw options hgone)
      (hw.forest?_without hforward hgone hforest), forestScript_eq_flatCodes,
    forestScript_eq_flatCodes, flatCodes_disabled_of_forest? hw options hforest,
    Workspace.declared_without]

end Scripts

/-- **Disabling a block is taking it out.** The script with a block disabled is the script of the
workspace without the block and what is in its inputs. -/
theorem script_disabled_eq_script_without (registry : Registry) (options : ScriptOptions)
    (text : String) (w : Workspace) (h : (parse registry.shape? text).workspace = some w) (r : Ref)
    (b : Block) (hb : w.block? r = some b) :
    ∃ script,
      ({ workspace := w.disable r, registry, options } : Program).script = .ok script ∧
      ({ workspace := w.without r, registry, options } : Program).script = .ok script := by
  have hw := wellLinked_of_parse h
  obtain ⟨forest, hforest⟩ := exists_forest_of_parse h
  exact ⟨_, script_disable hw options hforest hb,
    script_without hw options hforest hb (forward_of_parse h)⟩

/-- A handler with two statements inside, the first of which has a value of its own. -/
def spliceText : String :=
  "[[0, [[\"on_click\", \"h\", true, \x7b\x7d, \x7b\"DO\": [[\"set_mass\", \"a\", true, " ++
    "\x7b\x7d, \x7b\"MASS\": [[\"math_number\", \"n\"]]\x7d, " ++
    "[[\"set_sky_color\", \"c\"]]]]\x7d]]], [[\"s\", \"ball\", \"SHAPE\"]]]"

/-- The handler with the second statement alone. -/
def splicedText : String :=
  "[[0, [[\"on_click\", \"h\", true, \x7b\x7d, \x7b\"DO\": [[\"set_sky_color\", \"c\"]]\x7d]]], " ++
    "[[\"s\", \"ball\", \"SHAPE\"]]]"

/-- The script of the second statement in the handler. -/
def splicedScript : String :=
  "threeD.onClick(ball, async () => \x7b\n  threeD.setSkyColor(\"#87ceeb\");\n\x7d);"

/-- The statement at the second place is the first one in the handler. -/
theorem script_disabled_spliceText :
    ∃ w b, (parse Registry.standard.shape? spliceText).workspace = some w ∧
      w.block? 1 = some b ∧ b.id = "a" ∧
      (parse Registry.standard.shape? splicedText).workspace = some (w.without 1) ∧
      ({ workspace := w.disable 1, registry := .standard } : Program).script = .ok splicedScript ∧
      ({ workspace := w.without 1, registry := .standard } : Program).script =
        .ok splicedScript := by
  have hchars : spliceText.toList = _ :=
    Json.toList_append_of (Json.toList_append_of String.toList_ofList String.toList_ofList)
      String.toList_ofList
  have hchars' : splicedText.toList = _ :=
    Json.toList_append_of String.toList_ofList String.toList_ofList
  have hparse : ((parse Registry.standard.shape? spliceText).workspace.map fun w =>
      ((w.block? 1).map Block.id, decide (some (w.without 1) =
        (parse Registry.standard.shape? splicedText).workspace))) = some (some "a", true) := by
    rw [parse, parse, Document.ofText, Document.ofText, Json.decodeText, Json.decodeText,
      Json.Draft.ofText_of_toList hchars, Json.Draft.ofText_of_toList hchars']
    decide +kernel
  have hscript : ((parse Registry.standard.shape? splicedText).workspace.bind fun w =>
      ({ workspace := w, registry := .standard } : Program).script.toOption) =
        some splicedScript := by
    rw [parse, Document.ofText, Json.decodeText, Json.Draft.ofText_of_toList hchars']
    decide +kernel
  obtain ⟨w, hw, hpair⟩ := Option.map_eq_some_iff.1 hparse
  obtain ⟨hblock, hwithout⟩ := Prod.mk.inj hpair
  obtain ⟨b, hb, hid⟩ := Option.map_eq_some_iff.1 hblock
  have hwithout := of_decide_eq_true hwithout
  obtain ⟨script, hdisabled, hsame⟩ :=
    script_disabled_eq_script_without Registry.standard {} spliceText w hw 1 b hb
  rw [← hwithout, Option.bind_some, hsame] at hscript
  cases hscript
  exact ⟨w, b, hw, hb, hid, hwithout.symm, hdisabled, hsame⟩

end SceneScript
