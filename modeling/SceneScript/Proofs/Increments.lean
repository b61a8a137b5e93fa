import SceneScript.Proofs.Findings
import SceneScript.Proofs.Parsed

/-!
# Scripts grow chain by chain

A script is made chain by chain and block by block, and what comes later never changes what came
before. So the first chains of a document have a beginning of the script, and a chain at the top can
be cut in two without any effect.

* `Chain.append`, `Tree.append`: a chain that goes on with another one.
* `Tree.flatCodes`: the code of all statements of a forest, whichever chains they are in.
* `SameText`: joining lines chain by chain or all at once.
* **`script_increments`**: the scripts of the first chains of a document, and of a document with a
  chain cut in two.
-/

namespace SceneScript

/-! ## Chains that go on -/

namespace Chain

/-- The chain with another one below its last block. -/
def append : Chain → Chain → Chain
  | none, tail => tail
  | unreadable cause, _ => unreadable cause
  | block header inputs next, tail => block header inputs (next.append tail)

variable {catalog : Catalog} {position : Position} {nesting : Nat} {tail : Chain}

/-- A chain of blocks, to which another one can be appended. -/
def Readable : Chain → Prop
  | none => True
  | unreadable _ => False
  | block _ _ next => next.Readable

theorem append_eq_none_iff {front : Chain} :
    front.append tail = none ↔ front = none ∧ tail = none := by
  cases front <;> simp [append]

theorem unnamed_append : ∀ front : Chain, front.Readable →
    (front.append tail).unnamed = front.unnamed + tail.unnamed
  | none, _ => by simp [append, unnamed]
  | block header inputs next, h => by
    have hnext := unnamed_append next h
    rw [append, unnamed, unnamed, hnext]
    omega

theorem size_append : ∀ front : Chain, front.Readable →
    (front.append tail).size = front.size + tail.size
  | none, _ => by simp [append, size]
  | block header inputs next, h => by
    have hnext := size_append next h
    rw [append, size, size, hnext]
    omega

theorem numbered_append : ∀ (front : Chain) (n : Nat), front.Readable →
    (front.append tail).numbered n =
      (front.numbered n).append (tail.numbered (n + front.unnamed))
  | none, n, _ => by simp [append, numbered, unnamed]
  | block header inputs next, n, h => by
    have hnext := numbered_append next (n + header.unnamed + unnamedInputs inputs) h
    have hplace : n + header.unnamed + unnamedInputs inputs + next.unnamed =
        n + (header.unnamed + unnamedInputs inputs + next.unnamed) := by omega
    rw [append, numbered, numbered, append, hnext, unnamed, hplace]

theorem ids_append : ∀ front : Chain, front.Readable →
    (front.append tail).ids = front.ids ++ tail.ids
  | none, _ => by simp [append, ids]
  | block header inputs next, h => by
    have hnext := ids_append next h
    rw [append, ids, ids, hnext, List.cons_append, List.append_assoc]

theorem readable_numbered : ∀ (front : Chain) (n : Nat), front.Readable →
    (front.numbered n).Readable
  | none, _, _ => trivial
  | block _ _ next, _, h => readable_numbered next _ h

/-! ## Pieces of a chain -/

theorem fits_top_of_statements {chain : Chain} (h : chain.Fits catalog .statements nesting) :
    chain.Fits catalog .top nesting := by
  cases chain with
  | none => exact fits_none
  | unreadable cause => exact (not_fits_unreadable cause h).elim
  | block header inputs next =>
    cases hkind : catalog header.kind with
    | none => exact (not_fits_of_unknown hkind h).elim
    | some shape =>
      obtain ⟨hnesting, hstatement, -, hrest⟩ := (fits_block_iff hkind).1 h
      exact (fits_block_iff hkind).2 ⟨hnesting, nofun, nofun, hrest⟩

/-- Both pieces of a chain fit their places, and they are statements. -/
theorem fits_append (htail : tail ≠ none) : ∀ {front : Chain} {position : Position},
    front ≠ none → (front.append tail).Fits catalog position nesting →
      front.Fits catalog .statements nesting ∧ tail.Fits catalog .statements nesting
  | none, _, hfront, _ => absurd rfl hfront
  | unreadable cause, _, _, h => (not_fits_unreadable cause h).elim
  | block header inputs next, position, _, h => by
    cases hkind : catalog header.kind with
    | none => exact (not_fits_of_unknown hkind h).elim
    | some shape =>
      obtain ⟨hnesting, -, -, hbelow, hnames, hinputs, hnext⟩ := (fits_block_iff hkind).1 h
      have hpieces : next.Fits catalog .statements nesting ∧
          tail.Fits catalog .statements nesting := by
        by_cases hnone : next = none
        · subst hnone
          exact ⟨fits_none, hnext⟩
        · exact fits_append htail hnone hnext
      have hstatement : shape.isStatement = true := by
        by_contra hshape
        exact htail (append_eq_none_iff.1 (hbelow (Bool.not_eq_true _ ▸ hshape))).2
      exact ⟨(fits_statement_iff hkind).2 ⟨hnesting, hstatement, hnames, hinputs, hpieces.1⟩,
        hpieces.2⟩

theorem readable_of_fits : ∀ (front : Chain) {position : Position},
    front.Fits catalog position nesting → front.Readable
  | none, _, _ => trivial
  | unreadable cause, _, h => (not_fits_unreadable cause h).elim
  | block header inputs next, _, h => by
    cases hkind : catalog header.kind with
    | none => exact (not_fits_of_unknown hkind h).elim
    | some shape =>
      obtain ⟨-, -, -, -, -, -, hnext⟩ := (fits_block_iff hkind).1 h
      exact readable_of_fits next hnext

theorem sound_top_of_statements {chain : Chain} (h : chain.Sound catalog .statements) :
    chain.Sound catalog .top := by
  cases chain with
  | none => trivial
  | unreadable cause => exact h.elim
  | block header inputs next =>
    obtain ⟨shape, hkind, -, -, hrest⟩ := h
    exact ⟨shape, hkind, nofun, nofun, hrest⟩

/-- Both pieces of a sound chain are sound, and they are statements. -/
theorem sound_append (htail : tail ≠ none) : ∀ {front : Chain} {position : Position},
    front ≠ none → (front.append tail).Sound catalog position →
      front.Sound catalog .statements ∧ tail.Sound catalog .statements
  | none, _, hfront, _ => absurd rfl hfront
  | unreadable cause, _, _, h => h.elim
  | block header inputs next, position, _, h => by
    obtain ⟨shape, hkind, -, -, hbelow, hnames, hinputs, hnext⟩ := h
    have hpieces : next.Sound catalog .statements ∧ tail.Sound catalog .statements := by
      by_cases hnone : next = none
      · subst hnone
        exact ⟨trivial, hnext⟩
      · exact sound_append htail hnone hnext
    have hstatement : shape.isStatement = true := by
      by_contra hshape
      exact htail (append_eq_none_iff.1 (hbelow (Bool.not_eq_true _ ▸ hshape))).2
    refine ⟨⟨shape, hkind, fun _ => hstatement, nofun, fun hshape => ?_, hnames, hinputs,
      hpieces.1⟩, hpieces.2⟩
    exact (append_eq_none_iff.1 (hbelow hshape)).1

/-! ## Layouts of pieces -/

theorem bare_headBlock (shape : Shape) (header : Header) (heads : List (String × Option Ref))
    (parent previous below parent' previous' below' : Option Ref) :
    (headBlock shape header heads parent previous below).bare =
      (headBlock shape header heads parent' previous' below').bare := by
  unfold Block.bare
  rw [output_headBlock, output_headBlock, headBlock_eq, headBlock_eq]

theorem bare_layout_congr (catalog : Catalog) (parent previous parent' previous' : Option Ref)
    (n : Ref) (chain : Chain) :
    (chain.layout catalog parent previous n).map Block.bare =
      (chain.layout catalog parent' previous' n).map Block.bare := by
  cases chain with
  | none => rfl
  | unreadable cause => rfl
  | block header inputs next =>
    rw [layout, layout, List.map_cons, List.map_cons]
    congr 1
    exact bare_headBlock _ _ _ _ _ _ _ _ _

/-- Apart from how they hang, the blocks of a chain are those of its pieces. -/
theorem bare_layout_append (catalog : Catalog) : ∀ (front : Chain) (parent previous : Option Ref)
    (n : Nat), front.Readable →
      ((front.append tail).layout catalog parent previous n).map Block.bare =
        (front.layout catalog parent previous n).map Block.bare ++
          (tail.layout catalog .none .none (n + front.size)).map Block.bare
  | none, _, _, n, _ => bare_layout_congr catalog _ _ _ _ n tail
  | block header inputs next, parent, previous, n, h => by
    have hnext := bare_layout_append catalog next .none (some n) (n + 1 + sizeOfInputs inputs) h
    have hplace : n + (block header inputs next).size =
        n + 1 + sizeOfInputs inputs + next.size := by
      rw [size]
      omega
    rw [append, layout, layout, List.map_cons, List.map_cons, List.map_append, List.map_append,
      hnext, hplace, List.cons_append, List.append_assoc]
    congr 1
    exact bare_headBlock _ _ _ _ _ _ _ _ _

theorem numberedAll_append : ∀ (as bs : List Chain) (n : Nat),
    numberedAll n (as ++ bs) = numberedAll n as ++ numberedAll (n + unnamedAll as) bs
  | [], _, _ => rfl
  | chain :: rest, bs, n => by
    rw [List.cons_append, numberedAll, numberedAll_append rest, numberedAll, List.cons_append,
      unnamedAll, Nat.add_assoc]

theorem exists_layoutAll_append (catalog : Catalog) : ∀ (as : List Chain) (n : Nat),
    ∃ m, ∀ bs, layoutAll catalog n (as ++ bs) = layoutAll catalog n as ++ layoutAll catalog m bs
  | [], n => ⟨n, fun _ => rfl⟩
  | chain :: rest, n => by
    obtain ⟨m, hrest⟩ := exists_layoutAll_append catalog rest (n + chain.size)
    refine ⟨m, fun bs => ?_⟩
    rw [List.cons_append, layoutAll, hrest, layoutAll, List.append_assoc]

theorem bare_layoutAll_cut (catalog : Catalog) {front : Chain} (h : front.Readable) (tail : Chain)
    (before after : List Chain) (n : Nat) :
    (layoutAll catalog n (before ++ front.append tail :: after)).map Block.bare =
      (layoutAll catalog n (before ++ front :: tail :: after)).map Block.bare := by
  obtain ⟨m, hbefore⟩ := exists_layoutAll_append catalog before n
  rw [hbefore, hbefore, List.map_append, List.map_append]
  simp only [layoutAll, List.map_append, bare_layout_append catalog front _ _ _ h,
    size_append front h, List.append_assoc, Nat.add_assoc]

end Chain

/-! ## Trees of pieces -/

namespace Tree

/-- The tree with another one below the last block of its chain. -/
def append : Tree → Tree → Tree
  | none, t => t
  | block id kind enabled fields values statements next, t =>
    block id kind enabled fields values statements (next.append t)

variable {registry : Registry} {options : ScriptOptions}

/-- The code of a chain is that of its pieces, one after the other. -/
theorem codes_append : ∀ s t : Tree, (s.append t).codes registry options = do
    let first ← s.codes registry options
    let rest ← t.codes registry options
    return first ++ rest
  | none, t => by
    rw [append, codes, pure_bind]
    exact (bind_pure _).symm
  | block id kind enabled fields values statements next, t => by
    rw [append, codes, codes_append next t, codes]
    simp only [bind_assoc, pure_bind]
    refine bind_congr fun fragment => bind_congr fun first => bind_congr fun rest => ?_
    split_ifs <;> rfl

variable (registry options) in
/-- The code of all statements of a forest, whichever chains they are in. -/
def flatCodes : List Tree → Naming (List String)
  | [] => return []
  | t :: rest => do
    if (t.output? registry).isNone then
      let codes ← t.codes registry options
      return codes ++ (← flatCodes rest)
    else flatCodes rest

theorem flatCodes_append : ∀ as bs : List Tree, flatCodes registry options (as ++ bs) = do
    let first ← flatCodes registry options as
    let rest ← flatCodes registry options bs
    return first ++ rest
  | [], bs => by
    rw [List.nil_append, flatCodes, pure_bind]
    exact (bind_pure _).symm
  | t :: as, bs => by
    rw [List.cons_append, flatCodes, flatCodes_append as bs, flatCodes]
    split_ifs
    · simp only [bind_assoc, pure_bind, List.append_assoc]
    · rfl

theorem flatCodes_cut {s t : Tree} (hs : (s.output? registry).isNone)
    (ht : (t.output? registry).isNone) (hne : s ≠ .none) (before after : List Tree) :
    flatCodes registry options (before ++ s.append t :: after) =
      flatCodes registry options (before ++ s :: t :: after) := by
  have houtput : ((s.append t).output? registry).isNone := by
    cases s with
    | none => exact absurd rfl hne
    | block => exact hs
  rw [flatCodes_append, flatCodes_append]
  refine bind_congr fun first => ?_
  simp only [flatCodes, hs, ht, houtput, if_true, codes_append, bind_assoc, pure_bind,
    List.append_assoc]

/-! ## Lines of a script -/

theorem run_bind_naming {α β : Type} (m : Naming α) (f : α → Naming β) (scope : Scope) :
    (m >>= f).run scope = (f (m.run scope).1).run (m.run scope).2 := rfl

variable (registry options) in
/-- Blocks that contribute nothing leave no line. -/
theorem ne_empty_of_mem_codes : ∀ (t : Tree) (scope : Scope),
    ∀ code ∈ ((t.codes registry options).run scope).1, code ≠ ""
  | none, _, code, h => by cases h
  | block id kind enabled fields values statements next, scope, code, h => by
    rw [codes, run_bind_naming, run_bind_naming] at h
    generalize StateT.run (Node.fragment _ _ _ _ _ _) scope = x at h
    obtain ⟨fragment, scope'⟩ := x
    have hnext := ne_empty_of_mem_codes next scope'
    dsimp only at h
    cases hempty : fragment.isEmpty with
    | true =>
      rw [hempty] at h
      exact hnext code h
    | false =>
      rw [hempty] at h
      rcases List.mem_cons.1 h with rfl | h
      · intro hcode
        rw [Fragment.isEmpty, hcode] at hempty
        cases hempty
      · exact hnext code h

end Tree

/-- Lines that are joined in two ways give the same text. -/
def SameText (codes codes' : List String) : Prop :=
  String.intercalate "\n" codes = String.intercalate "\n" codes' ∧ (codes = [] ↔ codes' = [])

theorem intercalate_eq_empty_iff {codes : List String} (h : ∀ code ∈ codes, code ≠ "") :
    String.intercalate "\n" codes = "" ↔ codes = [] := by
  cases codes with
  | nil => simp
  | cons code rest =>
    rw [List.forall_mem_cons] at h
    cases rest with
    | nil => simpa using h.1
    | cons next rest => simp

theorem sameText_append {group codes codes' : List String} (hgroup : ∀ code ∈ group, code ≠ "")
    (h : SameText codes codes') :
    SameText (if (String.intercalate "\n" group).isEmpty then codes
      else String.intercalate "\n" group :: codes) (group ++ codes') := by
  obtain ⟨htext, hnil⟩ := h
  by_cases hempty : group = []
  · subst hempty
    exact ⟨htext, hnil⟩
  · have hne : ¬ (String.intercalate "\n" group).isEmpty = true := by
      rw [String.isEmpty_iff, intercalate_eq_empty_iff hgroup]
      exact hempty
    rw [if_neg hne]
    refine ⟨?_, by simp [hempty]⟩
    by_cases hcodes : codes = []
    · rw [hcodes, hnil.1 hcodes, String.intercalate_singleton, List.append_nil]
    · have hcodes' : codes' ≠ [] := mt hnil.2 hcodes
      rw [String.intercalate_cons_of_ne_nil hcodes,
        String.intercalate_append_of_ne_nil hempty hcodes', htext]

namespace Tree

variable {registry : Registry} {options : ScriptOptions}

/-- Joining the code of chains is joining the code of all their statements. -/
theorem sameText_topCodes : ∀ (forest : List Tree) (scope : Scope),
    SameText ((topCodes registry options forest).run scope).1
        ((flatCodes registry options forest).run scope).1 ∧
      ((topCodes registry options forest).run scope).2 =
        ((flatCodes registry options forest).run scope).2
  | [], _ => ⟨⟨rfl, Iff.rfl⟩, rfl⟩
  | t :: rest, scope => by
    rw [topCodes, flatCodes]
    split_ifs
    · have hcodes := ne_empty_of_mem_codes registry options t scope
      simp only [run_bind_naming]
      generalize (t.codes registry options).run scope = x at hcodes ⊢
      obtain ⟨group, scope'⟩ := x
      obtain ⟨htext, hscope⟩ := sameText_topCodes rest scope'
      exact ⟨sameText_append hcodes htext, hscope⟩
    · exact sameText_topCodes rest scope

/-- The code of the first chains is a beginning of the code of all of them. -/
theorem flatCodes_begins (as bs : List Tree) (scope : Scope) {text text' : String}
    (htext : text = String.intercalate "\n" ((flatCodes registry options (as ++ bs)).run scope).1)
    (htext' : text' = String.intercalate "\n" ((flatCodes registry options as).run scope).1) :
    text' = "" ∨ text' = text ∨ ∃ rest, text = text' ++ "\n" ++ rest := by
  rw [flatCodes_append, run_bind_naming, run_bind_naming] at htext
  generalize (flatCodes registry options as).run scope = first at htext htext'
  generalize (flatCodes registry options bs).run first.2 = rest at htext
  have htext : text = String.intercalate "\n" (first.1 ++ rest.1) := htext
  by_cases hfirst : first.1 = []
  · left
    rw [htext', hfirst, String.intercalate_nil]
  · right
    by_cases hrest : rest.1 = []
    · left
      rw [htext, htext', hrest, List.append_nil]
    · right
      exact ⟨_, htext.trans (htext' ▸ String.intercalate_append_of_ne_nil hfirst hrest)⟩

end Tree

theorem forestScript_eq_flatCodes (registry : Registry) (options : ScriptOptions)
    (declared : List Variable) (forest : List Tree) :
    forestScript registry options declared forest =
      String.intercalate "\n" ((Tree.flatCodes registry options forest).run
        { names := .ofVariables declared options.runtime }).1 :=
  (Tree.sameText_topCodes forest _).1.1

/-! ## Documents -/

namespace Chain

theorem tree_append {catalog : Catalog} (tail : Chain) : ∀ (front : Chain) {position : Position},
    front.Sound catalog position →
      (front.append tail).tree catalog = (front.tree catalog).append (tail.tree catalog)
  | none, _, _ => rfl
  | unreadable _, _, h => h.elim
  | block header inputs next, _, h => by
    obtain ⟨shape, hkind, -, -, -, -, -, hnext⟩ := h
    have htree := tree_append tail next hnext
    simp only [append, tree, hkind, htree, Tree.append]

theorem tree_ne_none {catalog : Catalog} {chain : Chain} {position : Position}
    (h : chain.Sound catalog position) (hne : chain ≠ none) : chain.tree catalog ≠ .none := by
  cases chain with
  | none => exact absurd rfl hne
  | unreadable cause => exact h.elim
  | block header inputs next =>
    obtain ⟨shape, hkind, -⟩ := h
    simp [tree, hkind]

theorem isNone_output?_tree {registry : Registry} {chain : Chain}
    (h : chain.Sound registry.shape? .statements) :
    ((chain.tree registry.shape?).output? registry).isNone = true := by
  cases chain with
  | none => rfl
  | unreadable cause => exact h.elim
  | block header inputs next =>
    obtain ⟨shape, hkind, hstatement, -⟩ := h
    simp only [tree, hkind, Tree.output?, Option.bind_some]
    exact hstatement rfl

theorem numbered_ne_none {chain : Chain} (n : Nat) (h : chain ≠ none) :
    chain.numbered n ≠ none := by
  cases chain with
  | none => exact absurd rfl h
  | unreadable cause => simp [numbered]
  | block header inputs next => simp [numbered]

end Chain

namespace Document

variable {catalog : Catalog} {document : Document}

section Take

variable (document) (k : Nat)

theorem numbered_take : document.numbered =
    ({ document with chains := document.chains.take k } : Document).numbered ++
      Chain.numberedAll (Chain.unnamedAll (document.chains.take k)) (document.chains.drop k) := by
  have h := Chain.numberedAll_append (document.chains.take k) (document.chains.drop k) 0
  rw [List.take_append_drop, Nat.zero_add] at h
  exact h

variable {document}

theorem grammatical_take (h : document.Grammatical catalog) :
    ({ document with chains := document.chains.take k } : Document).Grammatical catalog := by
  rw [grammatical_iff] at h ⊢
  obtain ⟨hdeclarations, hfits, hids⟩ := h
  refine ⟨hdeclarations, fun chain hchain => hfits chain (List.mem_of_mem_take hchain), ?_⟩
  rw [ids, numbered_take document k, List.flatMap_append] at hids
  exact hids.of_append_left

end Take

section Cut

variable {before after : List Chain} {front tail : Chain}
  (h : document.chains = before ++ front.append tail :: after)

include h

theorem numbered_cut (hreadable : front.Readable) : ∃ before' n after',
    document.numbered = before' ++
        (front.numbered n).append (tail.numbered (n + front.unnamed)) :: after' ∧
      ({ document with chains := before ++ front :: tail :: after } : Document).numbered =
        before' ++ front.numbered n :: tail.numbered (n + front.unnamed) :: after' := by
  refine ⟨Chain.numberedAll 0 before, Chain.unnamedAll before,
    Chain.numberedAll (Chain.unnamedAll before + front.unnamed + tail.unnamed) after, ?_, ?_⟩
  · rw [numbered, h, Chain.numberedAll_append, Nat.zero_add, Chain.numberedAll,
      Chain.numbered_append front _ hreadable, Chain.unnamed_append front hreadable, Nat.add_assoc]
  · rw [numbered]
    dsimp only
    rw [Chain.numberedAll_append, Nat.zero_add, Chain.numberedAll, Chain.numberedAll]

/-- The blocks are the same ones, up to how they hang together. -/
theorem bare_workspace_cut (hreadable : front.Readable) :
    (({ document with chains := before ++ front :: tail :: after } : Document).workspace
      catalog).bare = (document.workspace catalog).bare := by
  obtain ⟨before', n, after', hnumbered, hcut⟩ := numbered_cut h hreadable
  have hblocks := Chain.bare_layoutAll_cut catalog (Chain.readable_numbered front n hreadable)
    (tail.numbered (n + front.unnamed)) before' after' 0
  unfold Workspace.bare workspace
  simp only [hnumbered, hcut, List.map_toArray, hblocks]

variable (hfront : front ≠ .none) (htail : tail ≠ .none)

include hfront htail

theorem fits_pieces (hgrammar : document.Grammatical catalog) :
    front.Fits catalog .statements 0 ∧ tail.Fits catalog .statements 0 := by
  refine Chain.fits_append htail hfront ((grammatical_iff.1 hgrammar).2.1 _ ?_)
  rw [h]
  exact List.mem_append_right _ List.mem_cons_self

theorem grammatical_cut (hgrammar : document.Grammatical catalog) :
    ({ document with chains := before ++ front :: tail :: after } : Document).Grammatical
      catalog := by
  have hpieces := fits_pieces h hfront htail hgrammar
  have hreadable := Chain.readable_of_fits front hpieces.1
  obtain ⟨before', n, after', hnumbered, hcut⟩ := numbered_cut h hreadable
  obtain ⟨hdeclarations, hfits, hids⟩ := grammatical_iff.1 hgrammar
  refine grammatical_iff.2 ⟨hdeclarations, ?_, ?_⟩
  · rw [h, List.forall_mem_append, List.forall_mem_cons] at hfits
    rw [List.forall_mem_append, List.forall_mem_cons, List.forall_mem_cons]
    exact ⟨hfits.1, Chain.fits_top_of_statements hpieces.1,
      Chain.fits_top_of_statements hpieces.2, hfits.2.2⟩
  · rw [ids, hnumbered, List.flatMap_append, List.flatMap_cons,
      Chain.ids_append _ (Chain.readable_numbered front n hreadable)] at hids
    rw [ids, hcut, List.flatMap_append, List.flatMap_cons, List.flatMap_cons,
      ← List.append_assoc (Chain.ids _)]
    exact hids

end Cut

end Document

/-! ## Scripts of documents -/

section Scripts

variable {registry : Registry} {document : Document}
  (hsound : ∀ chain ∈ document.numbered, chain ≠ .none ∧ chain.Sound registry.shape? .top)

include hsound

theorem script_workspace_eq (hids : document.ids.Nodup) (options : ScriptOptions) :
    ({ workspace := document.workspace registry.shape?, registry, options } : Program).script =
      .ok (String.intercalate "\n"
        ((Tree.flatCodes registry options (document.forest registry.shape?)).run
          { names := .ofVariables (document.declarations.filterMap Declaration.toVariable?)
              options.runtime }).1) := by
  have hcatalog : ∀ kind shape, registry.shape? kind = some shape → shape.kind = kind :=
    fun _ _ => Registry.kind_of_shape?
  have hforest := Document.forest?_of_sound hcatalog hsound
  have houtputs := (Document.wellLinked_of_sound hcatalog hsound hids).hasOutputs options
  rw [Program.script_eq_forestScript houtputs hforest]
  exact congrArg Except.ok (forestScript_eq_flatCodes _ _ _ _)

/-- The first chains of a document have a beginning of its script. -/
theorem script_take (hgrammar : document.Grammatical registry.shape?) (options : ScriptOptions)
    (k : Nat) :
    ∃ script script',
      ({ workspace := document.workspace registry.shape?, registry, options } : Program).script =
        .ok script ∧
      ({ workspace := ({ document with chains := document.chains.take k } : Document).workspace
            registry.shape?
         registry, options } : Program).script = .ok script' ∧
      (script' = "" ∨ script' = script ∨ ∃ rest, script = script' ++ "\n" ++ rest) := by
  have hnumbered := Document.numbered_take document k
  have hsound' : ∀ chain ∈ ({ document with chains := document.chains.take k } : Document).numbered,
      chain ≠ .none ∧ chain.Sound registry.shape? .top := fun chain hchain =>
    hsound chain (hnumbered ▸ List.mem_append_left _ hchain)
  have hgrammar' := Document.grammatical_take k hgrammar
  have hforest : document.forest registry.shape? =
      ({ document with chains := document.chains.take k } : Document).forest registry.shape? ++
        (Chain.numberedAll (Chain.unnamedAll (document.chains.take k))
          (document.chains.drop k)).map (Chain.tree registry.shape?) := by
    rw [Document.forest, hnumbered, List.map_append]
    rfl
  refine ⟨_, _, script_workspace_eq hsound hgrammar.distinct_ids options,
    script_workspace_eq hsound' hgrammar'.distinct_ids options, ?_⟩
  exact Tree.flatCodes_begins _ _ _ (by rw [hforest]) rfl

/-- A chain that is cut in two leaves script and findings as they are. -/
theorem script_cut (hgrammar : document.Grammatical registry.shape?) (options : ScriptOptions)
    {before after : List Chain} {front tail : Chain}
    (h : document.chains = before ++ front.append tail :: after) (hfront : front ≠ .none)
    (htail : tail ≠ .none) :
    ∃ script findings,
      ({ workspace := document.workspace registry.shape?, registry, options } : Program).script =
        .ok script ∧
      ({ workspace := ({ document with chains := before ++ front :: tail :: after } :
            Document).workspace registry.shape?
         registry, options } : Program).script = .ok script ∧
      (document.workspace registry.shape?).check registry = .ok findings ∧
      (({ document with chains := before ++ front :: tail :: after } : Document).workspace
        registry.shape?).check registry = .ok findings := by
  have hcatalog : ∀ kind shape, registry.shape? kind = some shape → shape.kind = kind :=
    fun _ _ => Registry.kind_of_shape?
  have hpieces := Document.fits_pieces h hfront htail hgrammar
  have hreadable := Chain.readable_of_fits front hpieces.1
  have hgrammar' := Document.grammatical_cut h hfront htail hgrammar
  obtain ⟨before', n, after', hnumbered, hcut⟩ := Document.numbered_cut h hreadable
  have hfront' := Chain.numbered_ne_none n hfront
  have htail' := Chain.numbered_ne_none (n + front.unnamed) htail
  generalize front.numbered n = first at hnumbered hcut hfront'
  generalize tail.numbered (n + front.unnamed) = second at hnumbered hcut htail'
  -- The pieces are statements with code of their own.
  obtain ⟨hfirst, hsecond⟩ : first.Sound registry.shape? .statements ∧
      second.Sound registry.shape? .statements := by
    refine Chain.sound_append htail' hfront' (hsound _ ?_).2
    rw [hnumbered]
    exact List.mem_append_right _ List.mem_cons_self
  have hsound' : ∀ chain ∈ ({ document with chains := before ++ front :: tail :: after } :
      Document).numbered, chain ≠ .none ∧ chain.Sound registry.shape? .top := by
    rw [hnumbered, List.forall_mem_append, List.forall_mem_cons] at hsound
    rw [hcut, List.forall_mem_append, List.forall_mem_cons, List.forall_mem_cons]
    exact ⟨hsound.1, ⟨hfront', Chain.sound_top_of_statements hfirst⟩,
      ⟨htail', Chain.sound_top_of_statements hsecond⟩, hsound.2.2⟩
  have hforest : Tree.flatCodes registry options (document.forest registry.shape?) =
      Tree.flatCodes registry options
        (({ document with chains := before ++ front :: tail :: after } : Document).forest
          registry.shape?) := by
    rw [Document.forest, Document.forest, hnumbered, hcut, List.map_append, List.map_append,
      List.map_cons, List.map_cons, List.map_cons, Chain.tree_append second first hfirst]
    exact Tree.flatCodes_cut (Chain.isNone_output?_tree hfirst) (Chain.isNone_output?_tree hsecond)
      (Chain.tree_ne_none hfirst hfront') _ _
  have hw := Document.wellLinked_of_sound hcatalog hsound hgrammar.distinct_ids
  have hw' := Document.wellLinked_of_sound hcatalog hsound' hgrammar'.distinct_ids
  refine ⟨_, _, script_workspace_eq hsound hgrammar.distinct_ids options, ?_,
    Workspace.check_eq registry hw.holdsValues, ?_⟩
  · rw [script_workspace_eq hsound' hgrammar'.distinct_ids options, hforest]
  · rw [Workspace.check_congr registry hw'.holdsValues hw.holdsValues
        (Document.bare_workspace_cut h hreadable),
      Workspace.check_eq registry hw.holdsValues]

end Scripts

/-- **Scripts grow chain by chain.** The first chains of a document can be linked by themselves, and
their script is empty, or the whole script, or a part of it before the end of a line. If a chain at
the top is cut in two, script and findings stay the same. -/
theorem script_increments (registry : Registry) (options : ScriptOptions) (text : String)
    (document : Document) (hdocument : Document.ofText text = .ok document) (w : Workspace)
    (h : (parse registry.shape? text).workspace = some w) :
    (∀ k, ∃ kept script script',
      (link registry.shape? { document with chains := document.chains.take k }).workspace =
        some kept ∧
      ({ workspace := w, registry, options } : Program).script = .ok script ∧
      ({ workspace := kept, registry, options } : Program).script = .ok script' ∧
      (script' = "" ∨ script' = script ∨ ∃ rest, script = script' ++ "\n" ++ rest)) ∧
    ∀ before front tail after, document.chains = before ++ front.append tail :: after →
      front ≠ .none → tail ≠ .none → ∃ cut script findings,
      (link registry.shape?
        { document with chains := before ++ front :: tail :: after }).workspace = some cut ∧
      ({ workspace := w, registry, options } : Program).script = .ok script ∧
      ({ workspace := cut, registry, options } : Program).script = .ok script ∧
      (link registry.shape?
        { document with chains := before ++ front :: tail :: after }).diagnostics =
        (parse registry.shape? text).diagnostics ∧
      w.check registry = .ok findings ∧ cut.check registry = .ok findings := by
  rw [parse_of_ok hdocument] at h ⊢
  obtain ⟨hgrammar, rfl⟩ := link_workspace_eq_some_iff.1 h
  have hsound := Document.sound_numbered hgrammar (Document.stored_of_ofText hdocument)
  constructor
  · intro k
    obtain ⟨script, script', hscript, hscript', hbegins⟩ := script_take hsound hgrammar options k
    exact ⟨_, script, script',
      link_workspace_eq_some_iff.2 ⟨Document.grammatical_take k hgrammar, rfl⟩, hscript, hscript',
      hbegins⟩
  · intro before front tail after hchains hfront htail
    have hgrammar' := Document.grammatical_cut hchains hfront htail hgrammar
    obtain ⟨script, findings, hscript, hscript', hcheck, hcheck'⟩ :=
      script_cut hsound hgrammar options hchains hfront htail
    refine ⟨_, script, findings, link_workspace_eq_some_iff.2 ⟨hgrammar', rfl⟩, hscript, hscript',
      ?_, hcheck, hcheck'⟩
    rw [Document.link_diagnostics_of_grammatical hgrammar,
      Document.link_diagnostics_of_grammatical hgrammar']

/-- The kinds of the blocks of a chain, from top to bottom. -/
def Chain.kinds : Chain → List String
  | none | unreadable _ => []
  | block header _ next => header.kind :: next.kinds

/-- A text of two chains: a statement with another one below it, and a handler. -/
def chainText : String :=
  "[[0, [[\"set_mass\", null, true, \x7b\x7d, \x7b\x7d, [[\"set_sky_color\"]]], " ++
    "[\"on_click\"]]], [[\"s\", \"ball\", \"SHAPE\"]]]"

theorem script_increments_chainText :
    ∃ document w header inputs next after cut,
      Document.ofText chainText = .ok document ∧
      (parse Registry.standard.shape? chainText).workspace = some w ∧
      document.chains = .block header inputs next :: after ∧ next.kinds = ["set_sky_color"] ∧
      (link Registry.standard.shape?
        { document with chains := .block header inputs .none :: next :: after }).workspace =
        some cut ∧
      ({ workspace := cut, registry := .standard } : Program).script =
        .ok ("threeD.setMass(ball, 1);\nthreeD.setSkyColor(\"#87ceeb\");\n" ++
          "threeD.onClick(ball, async () => \x7b\n\x7d);") := by
  have hchars : chainText.toList = _ :=
    Json.toList_append_of String.toList_ofList String.toList_ofList
  have hscript : ((parse Registry.standard.shape? chainText).workspace.bind fun w =>
      ({ workspace := w, registry := .standard } : Program).script.toOption) =
        some ("threeD.setMass(ball, 1);\nthreeD.setSkyColor(\"#87ceeb\");\n" ++
          "threeD.onClick(ball, async () => \x7b\n\x7d);") := by
    rw [parse, Document.ofText, Json.decodeText, Json.Draft.ofText_of_toList hchars]
    decide +kernel
  have hkinds : ((Document.ofText chainText).toOption.map fun document =>
      document.chains.map Chain.kinds) =
        some [["set_mass", "set_sky_color"], ["on_click"]] := by
    rw [Document.ofText, Json.decodeText, Json.Draft.ofText_of_toList hchars]
    decide +kernel
  obtain ⟨w, hw, hscript⟩ := Option.bind_eq_some_iff.1 hscript
  obtain ⟨document, hdocument, -⟩ := exists_document_of_parse hw
  rw [hdocument] at hkinds
  obtain ⟨chain, after, hchains, hchain, -⟩ := List.map_eq_cons_iff.1 (Option.some.inj hkinds)
  cases chain with
  | none => cases hchain
  | unreadable _ => cases hchain
  | block header inputs next =>
    have hnext : next.kinds = ["set_sky_color"] := (List.cons.inj hchain).2
    have hsome : next ≠ .none := by
      rintro rfl
      cases hnext
    obtain ⟨-, hcut⟩ := script_increments Registry.standard {} chainText document hdocument w hw
    obtain ⟨cut, script, -, hlink, horiginal, hsame, -⟩ :=
      hcut [] (.block header inputs .none) next after hchains (by simp) hsome
    rw [horiginal] at hscript
    cases hscript
    exact ⟨document, w, header, inputs, next, after, cut, hdocument, hw, hchains, hnext, hlink,
      hsame⟩

end SceneScript
