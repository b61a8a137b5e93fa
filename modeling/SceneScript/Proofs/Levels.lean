import SceneScript.Proofs.Calls
import SceneScript.Proofs.Findings
import SceneScript.Proofs.Parsed

/-!
# Bounds on generating

A workspace that is parsed has no cycles: every reference goes to a later place. Chains can be as
long as they like, but blocks stand in few inputs, so few levels are enough to generate any of them.

* `Workspace.Forward`: every reference goes to a block at a later place.
* `Workspace.Walk`: the whole of a chain, down to a block with nothing below it.
* `Chain.levels_tree_le`: a chain that fits its place has few levels.
* **`generates_within_maxNesting`**: everything is generated, within `maxNesting + 1` levels.
-/

namespace SceneScript

/-! ## Earlier and later places -/

namespace Block

/-- Blocks from place `n` on, each of which hangs nowhere or at an earlier place. -/
def HangBack (n : Nat) (bs : List Block) : Prop :=
  ∀ entry ∈ bs.zipIdx n, ∀ q ∈ entry.1.parent, q < entry.2

theorem hangBack_cons_iff {n : Nat} {b : Block} {bs : List Block} :
    HangBack n (b :: bs) ↔ (∀ q ∈ b.parent, q < n) ∧ HangBack (n + 1) bs := by
  rw [HangBack, List.zipIdx_cons, List.forall_mem_cons]
  rfl

theorem hangBack_append_iff {n : Nat} {as bs : List Block} :
    HangBack n (as ++ bs) ↔ HangBack n as ∧ HangBack (n + as.length) bs := by
  rw [HangBack, List.zipIdx_append, List.forall_mem_append]
  rfl

end Block

namespace Chain

variable {catalog : Catalog}

mutual

theorem hangBack_layout : ∀ (chain : Chain) {parent previous : Option Ref} {n : Nat},
    (∀ q ∈ previous.or parent, q < n) →
      Block.HangBack n (chain.layout catalog parent previous n)
  | none, _, _, _, _ | unreadable _, _, _, _, _ => by simp [layout, Block.HangBack]
  | block header inputs next, parent, previous, n, h => by
    rw [layout, Block.hangBack_cons_iff, Block.hangBack_append_iff, length_layoutInputs]
    refine ⟨?_, hangBack_layoutInputs inputs (Nat.lt_succ_self n), hangBack_layout next ?_⟩
    · rw [headBlock_eq]
      exact h
    · rintro q ⟨⟩
      show n < n + 1 + sizeOfInputs inputs
      omega

theorem hangBack_layoutInputs : ∀ (inputs : List (String × Chain)) {r n : Nat}, r < n →
    Block.HangBack n (layoutInputs catalog r n inputs)
  | [], _, _, _ => by simp [layoutInputs, Block.HangBack]
  | (_, chain) :: rest, r, n, h => by
    rw [layoutInputs, Block.hangBack_append_iff, length_layout]
    refine ⟨hangBack_layout chain ?_, hangBack_layoutInputs rest (by omega)⟩
    rintro q ⟨⟩
    exact h

end

theorem hangBack_layoutAll : ∀ (chains : List Chain) (n : Nat),
    Block.HangBack n (layoutAll catalog n chains)
  | [], _ => by simp [layoutAll, Block.HangBack]
  | chain :: rest, n => by
    rw [layoutAll, Block.hangBack_append_iff, length_layout]
    exact ⟨hangBack_layout chain (by simp), hangBack_layoutAll rest _⟩

end Chain

namespace Workspace

variable {w : Workspace}

theorem lt_size_of_block? {r : Ref} {b : Block} (h : w.block? r = some b) : r < w.size :=
  (Array.getElem?_eq_some_iff.1 h).1

theorem exists_block_of_lt {r : Ref} (h : r < w.size) : ∃ b, w.block? r = some b :=
  ⟨_, Array.getElem?_eq_getElem h⟩

/-- Every reference goes to a block, and this is at a later place than the one that holds it. -/
def Forward (w : Workspace) : Prop :=
  ∀ reference ∈ w.references, reference.target < w.size ∧
    ∀ holder ∈ reference.holder, holder < reference.target

theorem forward_of_hangBack {catalog : Catalog} (hw : w.WellLinked catalog)
    (h : Block.HangBack 0 w.blocks.toList) : w.Forward := by
  intro reference hreference
  obtain ⟨b, hb, hparent⟩ := hw.parent_eq_holder reference hreference
  refine ⟨lt_size_of_block? hb, fun holder hholder => ?_⟩
  rw [← hparent] at hholder
  exact h (b, reference.target) (mem_zipIdx_blocks_iff.2 hb) holder hholder

/-! ## Walks -/

/-- The whole of a chain, down to a block with nothing below it. -/
inductive Walk (w : Workspace) : Option Ref → List (Ref × Block) → Prop
  | nil : Walk w none []
  | cons {r : Ref} {b : Block} {rest : List (Ref × Block)} :
    w.block? r = some b → Walk w b.next rest → Walk w (some r) ((r, b) :: rest)

/-- A walk ends, because it only goes to later places. -/
theorem Forward.exists_walk (hw : w.Forward) : ∀ (steps : Nat) (head : Option Ref),
    (∀ r ∈ head, r < w.size ∧ w.size ≤ r + steps) →
      ∃ walk, w.Walk head walk ∧ ∀ limit, steps ≤ limit → w.chain limit head = walk
  | _, none, _ => ⟨[], .nil, fun limit _ => by cases limit <;> rfl⟩
  | 0, some r, h => absurd (h r rfl).1 (Nat.not_lt.2 (h r rfl).2)
  | steps + 1, some r, h => by
    obtain ⟨hr, hsteps⟩ := h r rfl
    obtain ⟨b, hb⟩ := exists_block_of_lt hr
    have hnext : ∀ s ∈ b.next, s < w.size ∧ w.size ≤ s + steps := by
      intro s hs
      obtain ⟨hlt, hholder⟩ := hw _ (mem_references_of_next hb hs)
      have hlater : r + 1 ≤ s := hholder r rfl
      refine ⟨hlt, ?_⟩
      calc w.size ≤ r + (steps + 1) := hsteps
        _ = r + 1 + steps := by rw [Nat.add_assoc, Nat.add_comm 1]
        _ ≤ s + steps := Nat.add_le_add_right hlater steps
    obtain ⟨walk, hwalk, hchain⟩ := hw.exists_walk steps b.next hnext
    refine ⟨(r, b) :: walk, .cons hb hwalk, fun limit hlimit => ?_⟩
    obtain ⟨limit, rfl⟩ := Nat.exists_eq_succ_of_ne_zero (show limit ≠ 0 by omega)
    rw [chain, hb]
    dsimp only
    rw [hchain limit (by omega)]

/-! ## Trees of all blocks -/

/-- Where there is a tree, there is one at every reference that its block holds. -/
theorem exists_treeWithin_of_mem_references {depth : Nat} {r : Ref} {b : Block} {t : Tree}
    {reference : Reference} (htree : w.treeWithin depth (some r) = some t)
    (hb : w.block? r = some b) (hreference : reference ∈ b.references r) :
    ∃ d s, d ≤ depth ∧ w.treeWithin d (some reference.target) = some s ∧ s.levels ≤ t.levels := by
  obtain ⟨d, c, values, statements, next, rfl, hc, hvalues, hstatements, hnext, rfl⟩ :=
    treeWithin_some htree
  cases hb.symm.trans hc
  rw [Tree.levels]
  have hinput : ∀ {dict : Dict (Option Ref)} {trees : List (String × Tree)} {s : Ref},
      (dict.entries.mapM fun entry => do return (entry.1, ← w.treeWithin d entry.2)) =
        some trees → s ∈ dict.filled →
      ∃ t, w.treeWithin d (some s) = some t ∧ t.levels ≤ Tree.levelsOfInputs trees := by
    intro dict trees s htrees hs
    obtain ⟨name, hname⟩ := Dict.mem_filled_iff.1 hs
    have hget : dict.entries.lookup name = some (some s) := Option.join_eq_some_iff.1 hname
    have hlookup := lookup_mapM name htrees
    rw [hget] at hlookup
    obtain ⟨t, ht, htree⟩ := Option.map_eq_some_iff.1 hlookup.symm
    exact ⟨t, htree.symm, Tree.levels_le_of_lookup (Nat.le_refl _) ht⟩
  simp only [Block.references, List.mem_append, List.mem_map, Option.mem_toList] at hreference
  rcases hreference with ⟨s, hs, rfl⟩ | ⟨s, hs, rfl⟩ | ⟨s, hs, rfl⟩
  · obtain ⟨t, ht, hlevels⟩ := hinput hvalues hs
    exact ⟨d, t, Nat.le_succ d, ht, by omega⟩
  · obtain ⟨t, ht, hlevels⟩ := hinput hstatements hs
    exact ⟨d, t, Nat.le_succ d, ht, by omega⟩
  · rw [hs] at hnext
    exact ⟨d, next, Nat.le_succ d, hnext, by omega⟩

/-- Every block has a tree with no more levels than those at the top. -/
theorem exists_treeWithin {catalog : Catalog} (hw : w.WellLinked catalog) (hforward : w.Forward)
    {forest : List Tree} (hforest : w.forest? = some forest) {levels : Nat}
    (hlevels : ∀ t ∈ forest, t.levels ≤ levels) (r : Ref) (hr : r < w.size) :
    ∃ depth t, depth ≤ w.size ∧ w.treeWithin depth (some r) = some t ∧ t.levels ≤ levels := by
  -- A block is held at the top or by a block at an earlier place.
  induction r using Nat.strongRecOn with
  | ind r ih =>
    have htarget : r ∈ w.references.map Reference.target :=
      hw.held_once.mem_iff.2 (List.mem_range.2 hr)
    obtain ⟨reference, hreference, rfl⟩ := List.mem_map.1 htarget
    rcases mem_references_iff.1 hreference with ⟨s, hs, rfl⟩ | ⟨q, b, hb, hheld⟩
    · obtain ⟨t, ht, htree⟩ := exists_mapM_of_mem hforest hs
      exact ⟨w.size, t, Nat.le_refl _, htree, hlevels t ht⟩
    · have hq : q < reference.target := by
        have hholder : reference.holder = some q := by
          simp only [Block.references, List.mem_append, List.mem_map] at hheld
          rcases hheld with ⟨_, -, rfl⟩ | ⟨_, -, rfl⟩ | ⟨_, -, rfl⟩ <;> rfl
        exact (hforward reference hreference).2 q hholder
      obtain ⟨depth, t, hdepth, htree, ht⟩ := ih q hq (lt_size_of_block? hb)
      obtain ⟨d, s, hd, hs, hsub⟩ := exists_treeWithin_of_mem_references htree hb hheld
      exact ⟨d, s, by omega, hs, by omega⟩

end Workspace

/-! ## Levels of chains -/

namespace Chain

variable {catalog : Catalog}

theorem levels_at_le {name : String} {trees : List (String × Tree)} {n : Nat}
    (h : Tree.levelsOfInputs trees ≤ n) : (Tree.at name trees).levels ≤ n := by
  unfold Tree.at
  cases hlookup : trees.lookup name with
  | none => exact Nat.zero_le n
  | some t => exact Tree.levels_le_of_lookup h hlookup

/-- The inputs of a block have no more levels than what is put into them. -/
theorem levelsOfInputs_map_le (names : List String) (takes : String → Bool)
    {trees : List (String × Tree)} {n : Nat} (h : Tree.levelsOfInputs trees ≤ n) :
    Tree.levelsOfInputs
      (names.map fun name => (name, if takes name then Tree.at name trees else .none)) ≤ n := by
  refine Tree.levelsOfInputs_le_iff.2 fun input hinput => ?_
  obtain ⟨name, -, rfl⟩ := List.mem_map.1 hinput
  dsimp only
  split_ifs
  · exact levels_at_le h
  · exact Nat.zero_le n

mutual

/-- A chain that fits its place has no more levels than are left there. -/
theorem levels_tree_le : ∀ (chain : Chain) {position : Position} {nesting : Nat} (n : Nat),
    chain.Fits catalog position nesting →
      ((chain.numbered n).tree catalog).levels ≤ Linking.maxNesting + 1 - nesting
  | none, _, _, _, _ => Nat.zero_le _
  | unreadable _, _, _, _, hfits => (not_fits_unreadable _ hfits).elim
  | block header inputs next, position, nesting, n, hfits => by
    cases hkind : catalog header.kind with
    | none => exact (not_fits_of_unknown hkind hfits).elim
    | some shape =>
      obtain ⟨hnesting, -, -, -, -, hinputs, hnext⟩ := (fits_block_iff hkind).1 hfits
      have hinputs := levelsOfInputs_treesOfInputs_le inputs (n + header.unnamed) hinputs
      have hnext := levels_tree_le next (n + header.unnamed + unnamedInputs inputs) hnext
      have hkind' : catalog (header.numbered n).kind = some shape := hkind
      have hvalues := levelsOfInputs_map_le shape.valueNames shape.takesValue hinputs
      have hstatements := levelsOfInputs_map_le shape.statementNames shape.takesStatements hinputs
      simp only [numbered, tree, hkind', Tree.levels]
      omega

theorem levelsOfInputs_treesOfInputs_le {shape : Shape} : ∀ (inputs : List (String × Chain))
    {nesting : Nat} (n : Nat), InputsFit catalog shape nesting inputs →
      Tree.levelsOfInputs (treesOfInputs catalog (numberedInputs n inputs)) ≤
        Linking.maxNesting + 1 - nesting
  | [], _, _, _ => Nat.zero_le _
  | (name, chain) :: rest, nesting, n, hfits => by
    rw [inputsFit_cons_iff] at hfits
    have hchain := levels_tree_le chain n hfits.1
    have hrest := levelsOfInputs_treesOfInputs_le rest (n + chain.unnamed) hfits.2
    rw [numberedInputs, treesOfInputs, Tree.levelsOfInputs]
    omega

end

end Chain

theorem Document.levels_forest_le {catalog : Catalog} {document : Document}
    (h : document.Grammatical catalog) :
    ∀ t ∈ document.forest catalog, t.levels ≤ Linking.maxNesting + 1 := by
  intro t ht
  obtain ⟨chain, hchain, rfl⟩ := List.mem_map.1 ht
  obtain ⟨original, horiginal, n, rfl⟩ := Chain.mem_numberedAll hchain
  exact original.levels_tree_le n ((grammatical_iff.1 h).2.1 original horiginal)

theorem Workspace.exists_find? {w : Workspace} {id : String}
    (h : id ∈ w.blocks.toList.map Block.id) : ∃ r, r < w.size ∧ w.find? id = some r := by
  obtain ⟨b, hb, rfl⟩ := List.mem_map.1 h
  have hany : (w.find? b.id).isSome := by
    rw [find?, Array.findIdx?_isSome, Array.any_eq_true']
    exact ⟨b, Array.mem_toList_iff.1 hb, beq_self_eq_true b.id⟩
  obtain ⟨r, hr⟩ := Option.isSome_iff_exists.1 hany
  exact ⟨r, (Array.findIdx?_eq_some_iff_getElem.1 hr).1, hr⟩

/-! ## Workspaces that are parsed -/

section Parsed

variable {registry : Registry} {text : String} {w : Workspace}
  (h : (parse registry.shape? text).workspace = some w)

include h

theorem forward_of_parse : w.Forward := by
  obtain ⟨document, -, -, -, hw⟩ := exists_document_of_parse h
  refine Workspace.forward_of_hangBack (wellLinked_of_parse h) ?_
  rw [hw]
  exact Chain.hangBack_layoutAll document.numbered 0

theorem levels_le_of_parse : ∃ forest, w.forest? = some forest ∧
    ∀ t ∈ forest, t.levels ≤ Linking.maxNesting + 1 := by
  obtain ⟨document, -, hgrammar, hstored, rfl⟩ := exists_document_of_parse h
  exact ⟨_, Document.forest?_workspace (fun _ _ => Registry.kind_of_shape?) hgrammar hstored,
    Document.levels_forest_le hgrammar⟩

/-- The code of a block does not need more levels than a document may have. -/
theorem fragmentWithin_of_parse (options : ScriptOptions) {r : Ref} (hr : r < w.size) :
    ∃ step : Naming Fragment,
      ({ workspace := w, registry, options } : Program).fragment r = step.toGen ∧
      ∀ levels, Linking.maxNesting < levels →
        ({ workspace := w, registry, options } : Program).fragmentWithin levels r = step.toGen := by
  have hw := wellLinked_of_parse h
  obtain ⟨forest, hforest, hlevels⟩ := levels_le_of_parse h
  obtain ⟨depth, t, hdepth, htree, ht⟩ :=
    Workspace.exists_treeWithin hw (forward_of_parse h) hforest hlevels r hr
  have hfollows := Program.fragmentWithin_eq (hw.hasOutputs options)
  refine ⟨t.fragment registry options, ?_, fun levels hlt => ?_⟩
  · have hlevels : t.levels ≤ w.size + 1 :=
      Nat.le_succ_of_le (Nat.le_trans (Workspace.levels_le_of_treeWithin _ _ htree) hdepth)
    exact hfollows _ depth r t hdepth htree hlevels
  · exact hfollows levels depth r t hdepth htree (Nat.le_trans ht hlt)

/-- The script of a workspace does not need more levels than a document may have. -/
theorem exists_scriptWithin_of_parse (options : ScriptOptions) :
    ∃ script, ({ workspace := w, registry, options } : Program).script = .ok script ∧
      ∀ levels, Linking.maxNesting < levels →
        ({ workspace := w, registry, options } : Program).scriptWithin levels = .ok script := by
  obtain ⟨forest, hforest, hlevels⟩ := levels_le_of_parse h
  have houtputs := (wellLinked_of_parse h).hasOutputs options
  refine ⟨_, Program.script_eq_forestScript houtputs hforest, fun levels hlt => ?_⟩
  exact Program.scriptWithin_eq_forestScript houtputs hforest fun t ht =>
    Nat.le_trans (hlevels t ht) hlt

theorem exists_blockScriptWithin_of_parse (options : ScriptOptions) {id : String}
    (hid : id ∈ w.blocks.toList.map Block.id) :
    ∃ code, ({ workspace := w, registry, options } : Program).blockScript id = .ok (.ok code) ∧
      ∀ levels, Linking.maxNesting < levels →
        ({ workspace := w, registry, options } : Program).blockScriptWithin levels id =
          .ok (.ok code) := by
  obtain ⟨r, hr, hfind⟩ := Workspace.exists_find? hid
  obtain ⟨step, hstep, hwithin⟩ := fragmentWithin_of_parse h options hr
  refine ⟨(step.run (Program.initialScope ⟨w, registry, options⟩)).1.code, ?_, fun levels hlt => ?_⟩
  · unfold Program.fragment at hstep
    rw [Program.blockScript, Program.blockScriptWithin, hfind]
    dsimp only
    rw [hstep]
    rfl
  · rw [Program.blockScriptWithin, hfind]
    dsimp only
    rw [hwithin levels hlt]
    rfl

end Parsed

/-- **Everything can be generated from a workspace that is parsed.** References go to blocks and
never in circles, chains end, and operations are called with as many arguments as they take. The
script, the code of every block and the findings are there, however long the chains are; not more
than `maxNesting + 1` blocks ever stand inside each other. -/
theorem generates_within_maxNesting (p : Program) (hregistry : p.registry = .standard)
    (text : String) (h : (parse Registry.standard.shape? text).workspace = some p.workspace) :
    p.workspace.Forward ∧
    (∀ r < p.workspace.size, ∃ walk, p.workspace.Walk (some r) walk ∧
      ∀ limit, p.workspace.size ≤ limit → p.workspace.chain limit (some r) = walk) ∧
    (∀ r b, p.workspace.block? r = some b →
      ∃ d, p.definition? b = some d ∧ d.CallsProperly) ∧
    (∃ script, p.script = .ok script ∧
      ∀ levels, Linking.maxNesting < levels → p.scriptWithin levels = .ok script) ∧
    (∀ id ∈ p.workspace.blocks.toList.map Block.id, ∃ code, p.blockScript id = .ok (.ok code) ∧
      ∀ levels, Linking.maxNesting < levels → p.blockScriptWithin levels id = .ok (.ok code)) ∧
    ∃ findings, p.workspace.check p.registry = .ok findings := by
  obtain ⟨w, registry, options⟩ := p
  subst hregistry
  have hw := wellLinked_of_parse h
  have hforward := forward_of_parse h
  refine ⟨hforward, fun r hr => ?_, fun r b hb => ?_, exists_scriptWithin_of_parse h options,
    fun id hid => exists_blockScriptWithin_of_parse h options hid,
    ⟨_, Workspace.check_eq .standard hw.holdsValues⟩⟩
  · refine hforward.exists_walk w.size (some r) ?_
    rintro s ⟨⟩
    exact ⟨hr, Nat.le_add_left _ _⟩
  · obtain ⟨shape, hshape, -⟩ := hw.has_shape r b hb
    obtain ⟨d, hd, -⟩ := Option.map_eq_some_iff.1 hshape
    exact ⟨d, hd, Definition.callsProperly_of_mem_standard d (Registry.mem_of_get? hd)⟩

theorem generates_handlerText :
    ∃ w script, (parse Registry.standard.shape? handlerText).workspace = some w ∧ w.size = 5 ∧
      w.Forward ∧ ({ workspace := w, registry := .standard } : Program).script = .ok script ∧
      ({ workspace := w, registry := .standard } : Program).scriptWithin 65 = .ok script ∧
      ∃ code, ({ workspace := w, registry := .standard } : Program).blockScript "a" =
        .ok (.ok code) := by
  have hchars : handlerText.toList = _ :=
    Json.toList_append_of (Json.toList_append_of String.toList_ofList String.toList_ofList)
      String.toList_ofList
  have hsome : ((parse Registry.standard.shape? handlerText).workspace.map fun w =>
      (w.size, w.blocks.toList.map Block.id)) =
        some (5, ["__block1", "a", "__block2", "__block3", "__block4"]) := by
    rw [parse, Document.ofText, Json.decodeText, Json.Draft.ofText_of_toList hchars]
    decide +kernel
  obtain ⟨w, hw, hpair⟩ := Option.map_eq_some_iff.1 hsome
  obtain ⟨hsize, hids⟩ := Prod.mk.inj hpair
  obtain ⟨hforward, -, -, ⟨script, hscript, hwithin⟩, hblocks, -⟩ :=
    generates_within_maxNesting { workspace := w, registry := .standard } rfl handlerText hw
  obtain ⟨code, hcode, -⟩ := hblocks "a" (by simp [hids])
  exact ⟨w, script, hw, hsize, hforward, hscript, hwithin 65 (by decide), code, hcode⟩

end SceneScript
