import SceneScript.Proofs.Dict
import SceneScript.Proofs.Stored
import SceneScript.Proofs.Linking

/-!
# Blocks with their references

What the blocks of a layout hold, field by field, and what stands at their references. A chain that
fits its place is laid out soundly: each block has the inputs of its shape, and reading the blocks
back along their references gives the tree of the chain.

* `Chain.Sound`: a chain whose blocks fit their places and name no input twice.
* `Chain.headBlock_eq`: a block of a layout with all its parts.
* `Workspace.Holds`: some blocks stand in a workspace from a given place on.
* **`Workspace.treeWithin_layout`**: a layout is read back as the tree of its chain.
-/

namespace SceneScript

/-! ## The inputs of a shape -/

namespace Dict

variable {α : Type}

theorem join_get?_ofList {l : List (String × Option α)} (hl : ∀ entry ∈ l, entry.2 = none)
    (name : String) : ((ofList l).get? name).join = none := by
  rw [get?_ofList]
  cases hlookup : l.reverse.lookup name with
  | none => rfl
  | some value =>
    have hmem : (name, value) ∈ l := List.mem_reverse.1 (mem_of_lookup hlookup)
    exact hl _ hmem

theorem filled_eq_nil {d : Dict (Option α)} (h : ∀ name, (d.get? name).join = none) :
    d.filled = [] := by
  refine List.eq_nil_iff_forall_not_mem.2 fun a ha => ?_
  obtain ⟨name, hname⟩ := mem_filled_iff.1 ha
  rw [h name] at hname
  cases hname

end Dict

namespace Shape

variable {shape : Shape} {name : String}

theorem takesValue_iff :
    shape.takesValue name = true ↔ ∃ accepts, shape.input? name = some (.value accepts) := by
  unfold takesValue
  split <;> simp_all

theorem takesStatements_iff :
    shape.takesStatements name = true ↔ shape.input? name = some .statements := by
  unfold takesStatements
  split <;> simp_all

/-- The names of the inputs that take values are those that the shape declares so. -/
theorem mem_valueNames_iff :
    name ∈ shape.valueNames ↔ ∃ accepts, (name, Input.value accepts) ∈ shape.inputs := by
  rw [valueNames, emptyValues, Dict.mem_keys_ofList, List.mem_map]
  constructor
  · rintro ⟨entry, hentry, rfl⟩
    obtain ⟨⟨input, takes⟩, hinput, h⟩ := List.mem_filterMap.1 hentry
    cases takes with
    | value accepts =>
      cases h
      exact ⟨accepts, hinput⟩
    | statements => cases h
  · rintro ⟨accepts, hinput⟩
    exact ⟨(name, none), List.mem_filterMap.2 ⟨_, hinput, rfl⟩, rfl⟩

/-- The names of the inputs that take statements are those that the shape declares so. -/
theorem mem_statementNames_iff :
    name ∈ shape.statementNames ↔ (name, Input.statements) ∈ shape.inputs := by
  rw [statementNames, emptyStatements, Dict.mem_keys_ofList, List.mem_map]
  constructor
  · rintro ⟨entry, hentry, rfl⟩
    obtain ⟨⟨input, takes⟩, hinput, h⟩ := List.mem_filterMap.1 hentry
    cases takes with
    | value accepts => cases h
    | statements =>
      cases h
      exact hinput
  · intro hinput
    exact ⟨(name, none), List.mem_filterMap.2 ⟨_, hinput, rfl⟩, rfl⟩

theorem mem_valueNames_of_takesValue (h : shape.takesValue name = true) :
    name ∈ shape.valueNames := by
  obtain ⟨accepts, h⟩ := takesValue_iff.1 h
  exact mem_valueNames_iff.2 ⟨accepts, Dict.mem_of_lookup h⟩

theorem mem_statementNames_of_takesStatements (h : shape.takesStatements name = true) :
    name ∈ shape.statementNames :=
  mem_statementNames_iff.2 (Dict.mem_of_lookup (takesStatements_iff.1 h))

@[simp] theorem join_get?_emptyValues (shape : Shape) (name : String) :
    (shape.emptyValues.get? name).join = none := by
  refine Dict.join_get?_ofList (fun entry hentry => ?_) name
  obtain ⟨⟨input, takes⟩, -, h⟩ := List.mem_filterMap.1 hentry
  cases takes <;> cases h
  rfl

@[simp] theorem join_get?_emptyStatements (shape : Shape) (name : String) :
    (shape.emptyStatements.get? name).join = none := by
  refine Dict.join_get?_ofList (fun entry hentry => ?_) name
  obtain ⟨⟨input, takes⟩, -, h⟩ := List.mem_filterMap.1 hentry
  cases takes <;> cases h
  rfl

/-- The fields that are kept are those of the right form, in the order of their names. -/
theorem entries_readFields (shape : Shape) (fields : Dict Json) :
    (shape.readFields fields).entries = shape.typed fields := by
  refine Dict.entries_ofList (List.Pairwise.filterMap _ (fun a a' hlt b hb b' hb' => ?_)
    fields.sorted)
  simp only [Option.bind_eq_bind, Option.bind_eq_some_iff, Option.pure_def, Option.some.injEq]
    at hb hb'
  obtain ⟨_, -, _, -, rfl⟩ := hb
  obtain ⟨_, -, _, -, rfl⟩ := hb'
  exact hlt

end Shape

/-! ## The parts of a block -/

/-- The linkage of a block of some output between two others. -/
def Block.linkageBetween (previous below : Option Ref) : Option SocketTag → Linkage
  | none => .statement previous below
  | some tag => .expression tag

namespace Chain

theorem foldl_plug (shape : Shape) : ∀ (heads : List (String × Option Ref)) (b : Block),
    heads.foldl (Block.plug shape) b =
      { b with
        values := b.values.insertAll (heads.filter fun input => shape.takesValue input.1)
        statements :=
          b.statements.insertAll (heads.filter fun input => shape.takesStatements input.1) }
  | [], _ => rfl
  | input :: rest, b => by
    rw [List.foldl_cons, foldl_plug shape rest, List.filter_cons, List.filter_cons]
    cases h : shape.input? input.1 with
    | none => simp [Block.plug, Shape.takesValue, Shape.takesStatements, h]
    | some takes =>
      cases takes <;>
        simp [Block.plug, Shape.takesValue, Shape.takesStatements, h, Dict.insertAll]

/-- **The parts of a block** of a layout. -/
theorem headBlock_eq (shape : Shape) (header : Header) (heads : List (String × Option Ref))
    (parent previous below : Option Ref) :
    headBlock shape header heads parent previous below =
      { id := header.id.getD ""
        kind := shape.kind
        fields := shape.readFields header.fields
        values := shape.emptyValues.insertAll (heads.filter fun input => shape.takesValue input.1)
        statements :=
          shape.emptyStatements.insertAll (heads.filter fun input => shape.takesStatements input.1)
        linkage := Block.linkageBetween previous below shape.output
        enabled := header.enabled
        parent := previous.or parent } := by
  rw [headBlock, foldl_plug, Linking.newBlock]
  cases shape.output <;> cases previous <;> cases below <;> rfl

section Parts

variable {shape : Shape} {header : Header} {heads : List (String × Option Ref)}
  {parent previous below : Option Ref}

@[simp] theorem output_headBlock :
    (headBlock shape header heads parent previous below).output = shape.output := by
  rw [headBlock_eq, Block.output]
  cases shape.output <;> rfl

theorem next_headBlock (h : shape.isStatement = false → below = .none) :
    (headBlock shape header heads parent previous below).next = below := by
  rw [headBlock_eq, Block.next]
  rw [Shape.isStatement] at h
  cases houtput : shape.output with
  | none => rfl
  | some tag => exact (h (by rw [houtput]; rfl)).symm

/-- A block has the inputs of its shape that take values. -/
theorem keys_values_headBlock :
    (headBlock shape header heads parent previous below).values.keys = shape.valueNames := by
  rw [headBlock_eq]
  refine Dict.keys_insertAll fun input hinput => ?_
  exact Shape.mem_valueNames_of_takesValue (List.mem_filter.1 hinput).2

/-- A block has the inputs of its shape that take statements. -/
theorem keys_statements_headBlock :
    (headBlock shape header heads parent previous below).statements.keys =
      shape.statementNames := by
  rw [headBlock_eq]
  refine Dict.keys_insertAll fun input hinput => ?_
  exact Shape.mem_statementNames_of_takesStatements (List.mem_filter.1 hinput).2

theorem nodup_filter_heads (hheads : (heads.map Prod.fst).Nodup) (p : String → Bool) :
    ((heads.filter fun input => p input.1).map Prod.fst).Nodup :=
  hheads.sublist (List.filter_sublist.map _)

theorem valueInput_headBlock (hheads : (heads.map Prod.fst).Nodup) (name : String) :
    (headBlock shape header heads parent previous below).valueInput name =
      if shape.takesValue name then (heads.lookup name).join else .none := by
  rw [headBlock_eq, Block.valueInput, Dict.get?_insertAll (nodup_filter_heads hheads _),
    Dict.lookup_filter_fst]
  split_ifs
  · cases heads.lookup name <;> simp
  · simp

theorem statementInput_headBlock (hheads : (heads.map Prod.fst).Nodup) (name : String) :
    (headBlock shape header heads parent previous below).statementInput name =
      if shape.takesStatements name then (heads.lookup name).join else .none := by
  rw [headBlock_eq, Block.statementInput, Dict.get?_insertAll (nodup_filter_heads hheads _),
    Dict.lookup_filter_fst]
  split_ifs
  · cases heads.lookup name <;> simp
  · simp

end Parts

/-! ## Sound chains -/

mutual

/-- Every block of a chain is of a known kind, is a statement or an expression as its place asks
for, has nothing below it if it is an expression, and its inputs are those of its shape, each named
once. -/
def Sound (catalog : Catalog) (position : Position) : Chain → Prop
  | none => True
  | unreadable _ => False
  | block header inputs next =>
    ∃ shape, catalog header.kind = some shape ∧
      (position = .statements → shape.isStatement = true) ∧
      (position = .value → shape.isStatement = false) ∧
      (shape.isStatement = false → next = none) ∧ (inputs.map Prod.fst).Nodup ∧
      SoundInputs catalog shape inputs ∧ next.Sound catalog .statements

/-- The chains in the inputs of a block are sound. -/
def SoundInputs (catalog : Catalog) (shape : Shape) : List (String × Chain) → Prop
  | [] => True
  | (name, chain) :: rest =>
    (shape.input? name).isSome = true ∧
      chain.Sound catalog (Shape.positionIn (some shape) name) ∧ SoundInputs catalog shape rest

end

theorem fst_numberedInputs (n : Nat) (inputs : List (String × Chain)) :
    (numberedInputs n inputs).map Prod.fst = inputs.map Prod.fst := by
  induction inputs generalizing n with
  | nil => rfl
  | cons input rest ih => rw [numberedInputs, List.map_cons, List.map_cons, ih]

theorem fst_headsOfInputs (n : Ref) (inputs : List (String × Chain)) :
    (headsOfInputs n inputs).map Prod.fst = inputs.map Prod.fst := by
  induction inputs generalizing n with
  | nil => rfl
  | cons input rest ih => rw [headsOfInputs, List.map_cons, List.map_cons, ih]

theorem soundInputs_numbered {catalog : Catalog} {shape : Shape} {nesting : Nat} :
    ∀ {inputs : List (String × Chain)} (n : Nat),
      (∀ input ∈ inputs, ∀ (position : Position) (m : Nat),
        input.2.Fits catalog position nesting → (input.2.numbered m).Sound catalog position) →
      (∀ input ∈ inputs, (shape.input? input.1).isSome = true) →
      InputsFit catalog shape nesting inputs → SoundInputs catalog shape (numberedInputs n inputs)
  | [], _, _, _, _ => trivial
  | (name, chain) :: rest, n, hsound, hnames, hfit => by
    rw [inputsFit_cons_iff] at hfit
    rw [List.forall_mem_cons] at hsound hnames
    exact ⟨hnames.1, hsound.1 _ n hfit.1, soundInputs_numbered _ hsound.2 hnames.2 hfit.2⟩

/-- A chain that is stored in a draft and fits its place is sound. -/
theorem Stored.sound_numbered {catalog : Catalog} {draft : Option Json.Draft} {chain : Chain}
    (hstored : Stored draft chain) : ∀ {position : Position} {nesting : Nat} (n : Nat),
      chain.Fits catalog position nesting → (chain.numbered n).Sound catalog position := by
  induction hstored with
  | nothing => exact fun _ _ => trivial
  | unreadable _ => exact fun _ hfits => not_fits_unreadable _ hfits
  | @block draft header inputs next _ _ sorted _ _ _ ihinputs ihnext =>
    intro position nesting n hfits
    cases hkind : catalog header.kind with
    | none => exact absurd hfits (not_fits_of_unknown hkind)
    | some shape =>
      obtain ⟨-, hstatement, hvalue, hbelow, hnames, hinputs, hnext⟩ :=
        (fits_block_iff hkind).1 hfits
      refine ⟨shape, hkind, hstatement, hvalue, ?_, ?_, ?_, ihnext _ hnext⟩
      · intro h
        rw [hbelow h]
        rfl
      · rw [fst_numberedInputs]
        exact Dict.nodup_of_sorted sorted
      · exact soundInputs_numbered _ (fun input hinput position m => ihinputs input hinput m) hnames
          hinputs

end Chain

/-! ## Blocks in a workspace -/

namespace Workspace

variable (w : Workspace)

/-- The blocks stand in the workspace one after another, from place `n` on. -/
def Holds (n : Nat) : List Block → Prop
  | [] => True
  | b :: bs => w.block? n = some b ∧ Holds (n + 1) bs

theorem holds_append_iff : ∀ {n : Nat} {as bs : List Block},
    w.Holds n (as ++ bs) ↔ w.Holds n as ∧ w.Holds (n + as.length) bs
  | n, [], bs => by simp [Holds]
  | n, a :: as, bs => by
    rw [List.cons_append, Holds, Holds, holds_append_iff, List.length_cons, and_assoc,
      Nat.add_assoc n 1, Nat.add_comm 1]

theorem holds_drop : ∀ {n : Nat} {bs : List Block}, w.blocks.toList.drop n = bs → w.Holds n bs
  | _, [], _ => trivial
  | n, b :: bs, h => by
    have hb : w.blocks.toList[n]? = some b := by
      rw [← List.head?_drop, h, List.head?_cons]
    have hbs : w.blocks.toList.drop (n + 1) = bs := by
      rw [← List.tail_drop, h, List.tail_cons]
    exact ⟨by rwa [block?, ← Array.getElem?_toList], holds_drop hbs⟩

theorem holds_blocks : w.Holds 0 w.blocks.toList := w.holds_drop rfl

/-! ## Reading a layout back -/

theorem mapM_eq_pure_map {m : Type → Type} [Monad m] [LawfulMonad m] {α β : Type} {f : α → m β}
    {g : α → β} : ∀ {l : List α}, (∀ a ∈ l, f a = pure (g a)) → l.mapM f = pure (l.map g)
  | [], _ => rfl
  | a :: rest, h => by
    rw [List.forall_mem_cons] at h
    rw [List.mapM_cons, h.1, mapM_eq_pure_map h.2, pure_bind, pure_bind, List.map_cons]

variable {w}

theorem mapM_treeWithin {depth : Nat} {d : Dict (Option Ref)} {g : String → Tree}
    (h : ∀ name, w.treeWithin depth (d.get? name).join = some (g name)) :
    (d.entries.mapM fun input => do return (input.1, ← w.treeWithin depth input.2)) =
      some (d.keys.map fun name => (name, g name)) := by
  rw [Dict.entries_eq_map_keys, List.mapM_map]
  refine mapM_eq_pure_map fun name _ => ?_
  rw [Function.comp_apply, h name]
  rfl

/-- The tree at a block, given those at the references that it holds. -/
theorem treeWithin_succ {r depth : Nat} {b : Block} (hb : w.block? r = some b)
    {values statements : String → Tree} {next : Tree}
    (hvalues : ∀ name, w.treeWithin depth (b.valueInput name) = some (values name))
    (hstatements : ∀ name, w.treeWithin depth (b.statementInput name) = some (statements name))
    (hnext : w.treeWithin depth b.next = some next) :
    w.treeWithin (depth + 1) (some r) = some (.block b.id b.kind b.enabled b.fields.entries
      (b.values.keys.map fun name => (name, values name))
      (b.statements.keys.map fun name => (name, statements name)) next) := by
  rw [treeWithin, hb, Option.bind_eq_bind, Option.bind_some, mapM_treeWithin hvalues,
    mapM_treeWithin hstatements, hnext]
  rfl

mutual

/-- **A layout is read back as the tree of its chain.** -/
theorem treeWithin_layout {catalog : Catalog}
    (hcatalog : ∀ kind shape, catalog kind = some shape → shape.kind = kind) :
    ∀ (chain : Chain) {position : Position} {parent previous : Option Ref} {n depth : Nat},
      chain.Sound catalog position → chain.size ≤ depth →
      w.Holds n (chain.layout catalog parent previous n) →
        w.treeWithin depth (chain.head? n) = some (chain.tree catalog)
  | .none, _, _, _, _, depth, _, _, _ => treeWithin_none _ depth
  | .unreadable _, _, _, _, _, _, hsound, _, _ => hsound.elim
  | .block header inputs next, _, parent, previous, n, depth, hsound, hsize, hholds => by
    obtain ⟨shape, hkind, -, -, hbelow, hnames, hinputs, hnext⟩ := hsound
    rw [Chain.size] at hsize
    obtain ⟨depth, rfl⟩ : ∃ m, depth = m + 1 := ⟨depth - 1, by omega⟩
    simp only [Chain.layout, Holds, holds_append_iff, Chain.length_layoutInputs,
      Catalog.shapeOf, hkind, Option.getD_some] at hholds
    obtain ⟨hb, hholds, hholds'⟩ := hholds
    generalize hhead : Chain.headBlock shape header _ parent previous _ = b at hb
    have htrees : ∀ name,
        w.treeWithin depth ((Chain.headsOfInputs (n + 1) inputs).lookup name).join =
        some (Tree.at name (Chain.treesOfInputs catalog inputs)) :=
      treeWithin_layoutInputs hcatalog inputs hinputs (by omega) hholds
    have hheads : ((Chain.headsOfInputs (n + 1) inputs).map Prod.fst).Nodup := by
      rw [Chain.fst_headsOfInputs]
      exact hnames
    have hvalues : ∀ name, w.treeWithin depth (b.valueInput name) = some
        (if shape.takesValue name then Tree.at name (Chain.treesOfInputs catalog inputs)
          else .none) := by
      intro name
      rw [← hhead, Chain.valueInput_headBlock hheads]
      split_ifs
      · exact htrees name
      · exact treeWithin_none _ depth
    have hstatements : ∀ name, w.treeWithin depth (b.statementInput name) = some
        (if shape.takesStatements name then Tree.at name (Chain.treesOfInputs catalog inputs)
          else .none) := by
      intro name
      rw [← hhead, Chain.statementInput_headBlock hheads]
      split_ifs
      · exact htrees name
      · exact treeWithin_none _ depth
    have htree : w.treeWithin depth b.next = some (next.tree catalog) := by
      rw [← hhead, Chain.next_headBlock]
      · exact treeWithin_layout hcatalog next hnext (by omega) hholds'
      · intro h
        rw [hbelow h]
        rfl
    rw [Chain.head?, treeWithin_succ hb hvalues hstatements htree, ← hhead,
      Chain.keys_values_headBlock, Chain.keys_statements_headBlock, Chain.headBlock_eq,
      Shape.entries_readFields, hcatalog _ _ hkind, Chain.tree, hkind]

theorem treeWithin_layoutInputs {catalog : Catalog}
    (hcatalog : ∀ kind shape, catalog kind = some shape → shape.kind = kind) {shape : Shape} :
    ∀ (inputs : List (String × Chain)) {r n depth : Nat}, Chain.SoundInputs catalog shape inputs →
      Chain.sizeOfInputs inputs ≤ depth → w.Holds n (Chain.layoutInputs catalog r n inputs) →
      ∀ name, w.treeWithin depth ((Chain.headsOfInputs n inputs).lookup name).join =
        some (Tree.at name (Chain.treesOfInputs catalog inputs))
  | [], _, _, depth, _, _, _, _ => treeWithin_none _ depth
  | (input, chain) :: rest, r, n, depth, hsound, hsize, hholds, name => by
    obtain ⟨-, hchain, hrest⟩ := hsound
    rw [Chain.sizeOfInputs] at hsize
    rw [Chain.layoutInputs, holds_append_iff, Chain.length_layout] at hholds
    rw [Chain.headsOfInputs, Chain.treesOfInputs, Tree.at, Dict.lookup_cons_eq_ite,
      Dict.lookup_cons_eq_ite]
    split_ifs
    · exact treeWithin_layout hcatalog chain hchain (by omega) hholds.1
    · exact treeWithin_layoutInputs hcatalog rest hrest (by omega) hholds.2 name

end

/-- Chains one after another are read back as their trees. -/
theorem mapM_treeWithin_layoutAll {catalog : Catalog}
    (hcatalog : ∀ kind shape, catalog kind = some shape → shape.kind = kind) {depth : Nat} :
    ∀ {chains : List Chain} {n : Nat},
      (∀ chain ∈ chains, chain ≠ .none ∧ chain.Sound catalog .top) →
      (Chain.layoutAll catalog n chains).length ≤ depth →
      w.Holds n (Chain.layoutAll catalog n chains) →
        (Chain.headsAll n chains).mapM (fun r => w.treeWithin depth (some r)) =
          some (chains.map (Chain.tree catalog))
  | [], _, _, _, _ => rfl
  | .none :: _, _, hsound, _, _ => absurd rfl (hsound _ List.mem_cons_self).1
  | .unreadable cause :: _, _, hsound, _, _ => (hsound _ List.mem_cons_self).2.elim
  | .block header inputs next :: rest, n, hsound, hsize, hholds => by
    rw [List.forall_mem_cons] at hsound
    rw [Chain.layoutAll, List.length_append, Chain.length_layout] at hsize
    rw [Chain.layoutAll, holds_append_iff, Chain.length_layout] at hholds
    have hchain :
        w.treeWithin depth (some n) = some ((Chain.block header inputs next).tree catalog) :=
      treeWithin_layout hcatalog _ hsound.1.2 (by omega) hholds.1
    rw [Chain.headsAll, Chain.head?, Option.toList_some, List.singleton_append, List.mapM_cons,
      hchain, mapM_treeWithin_layoutAll hcatalog hsound.2 (by omega) hholds.2]
    rfl

end Workspace

end SceneScript
