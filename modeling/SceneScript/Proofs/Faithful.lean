import SceneScript.Kinds.Standard
import SceneScript.Proofs.Grammar
import SceneScript.Proofs.References

/-!
# Parsing is faithful

A workspace that is made from a document holds the forest of the document, and nothing else: every
block is held at one place and hangs where it says, and every block has the form of its shape.

* `Block.HasShape`: the inputs, the output and the fields of a block are those of a shape.
* `Workspace.WellLinked`: the references of a workspace are in order.
* **`parse_faithful`**: the workspace of a text is well linked and holds the forest of the text.
-/

namespace SceneScript

/-! ## Blocks and their shapes -/

/-- A value is of the variant that a field holds. -/
def FieldKind.Holds : FieldKind → FieldValue → Prop
  | .text _, .text _ => True
  | .number _, .number _ => True
  | .colour _, .colour _ => True
  | .checkbox _, .checkbox _ => True
  | .dropdown _, .dropdown _ => True
  | .reference _ _, .reference _ => True
  | _, _ => False

theorem FieldKind.holds_of_read? {kind : FieldKind} {json : Json} {value : FieldValue}
    (h : kind.read? json = some value) : kind.Holds value := by
  fun_cases read? kind json <;>
    simp only [read?, Option.map_eq_some_iff, Option.some.injEq, reduceCtorEq] at h <;>
    grind [Holds]

/-- A block has the form of a shape: it is a statement or an expression of the same tag, its inputs
are those that the shape declares, and each of its fields holds what the shape says. -/
structure Block.HasShape (b : Block) (shape : Shape) : Prop where
  output : b.output = shape.output
  values : ∀ name, name ∈ b.values.keys ↔ ∃ accepts, (name, Input.value accepts) ∈ shape.inputs
  statements : ∀ name, name ∈ b.statements.keys ↔ (name, Input.statements) ∈ shape.inputs
  fields : ∀ name value, b.fields.get? name = some value →
    ∃ kind, shape.field? name = some kind ∧ kind.Holds value

namespace Chain

variable {shape : Shape} {header : Header} {heads : List (String × Option Ref)}
  {parent previous below : Option Ref}

theorem hasShape_headBlock :
    (headBlock shape header heads parent previous below).HasShape shape where
  output := output_headBlock
  values name := by rw [keys_values_headBlock, Shape.mem_valueNames_iff]
  statements name := by rw [keys_statements_headBlock, Shape.mem_statementNames_iff]
  fields name value h := by
    rw [headBlock_eq, Dict.get?_eq_some_iff, Shape.entries_readFields, Shape.typed,
      List.mem_filterMap] at h
    obtain ⟨field, -, hread⟩ := h
    simp only [Option.bind_eq_bind, Option.bind_eq_some_iff, Option.pure_def, Option.some.injEq]
      at hread
    obtain ⟨kind, hkind, value', hvalue, hpair⟩ := hread
    cases hpair
    exact ⟨kind, hkind, FieldKind.holds_of_read? hvalue⟩

theorem parent_headBlock_of_previous {p : Ref}
    (h : (headBlock shape header heads parent previous below).previous = some p) :
    (headBlock shape header heads parent previous below).parent = some p := by
  rw [headBlock_eq] at h ⊢
  rw [Block.previous] at h
  cases houtput : shape.output with
  | none =>
    rw [houtput] at h
    exact (congrArg (Option.or · parent) h)
  | some tag =>
    rw [houtput] at h
    cases h

/-- A block of a layout, made from a header by its shape. -/
def Made (catalog : Catalog) (b : Block) : Prop :=
  ∃ shape header heads parent previous below, catalog header.kind = some shape ∧
    b = headBlock shape header heads parent previous below

mutual

theorem made_of_mem_layout {catalog : Catalog} : ∀ (chain : Chain) {position : Position}
    {parent previous : Option Ref} {n : Ref}, chain.Sound catalog position →
      ∀ b ∈ chain.layout catalog parent previous n, Made catalog b
  | none, _, _, _, _, _, b, hb => by simp [layout] at hb
  | unreadable _, _, _, _, _, hsound, _, _ => hsound.elim
  | block header inputs next, _, parent, previous, n, hsound, b, hb => by
    obtain ⟨shape, hkind, -, -, -, -, hinputs, hnext⟩ := hsound
    simp only [layout, Catalog.shapeOf, hkind, Option.getD_some, List.mem_cons,
      List.mem_append] at hb
    rcases hb with rfl | hb | hb
    · exact ⟨_, _, _, _, _, _, hkind, rfl⟩
    · exact made_of_mem_layoutInputs inputs hinputs b hb
    · exact made_of_mem_layout next hnext b hb

theorem made_of_mem_layoutInputs {catalog : Catalog} {shape : Shape} :
    ∀ (inputs : List (String × Chain)) {r n : Ref}, SoundInputs catalog shape inputs →
      ∀ b ∈ layoutInputs catalog r n inputs, Made catalog b
  | [], _, _, _, b, hb => by simp [layoutInputs] at hb
  | (_, chain) :: rest, _, _, hsound, b, hb => by
    obtain ⟨-, hchain, hrest⟩ := hsound
    rw [layoutInputs, List.mem_append] at hb
    rcases hb with hb | hb
    · exact made_of_mem_layout chain hchain b hb
    · exact made_of_mem_layoutInputs rest hrest b hb

end

theorem made_of_mem_layoutAll {catalog : Catalog} : ∀ {chains : List Chain} {n : Ref},
    (∀ chain ∈ chains, chain.Sound catalog .top) → ∀ b ∈ layoutAll catalog n chains, Made catalog b
  | [], _, _, b, hb => by simp [layoutAll] at hb
  | chain :: rest, n, hsound, b, hb => by
    rw [List.forall_mem_cons] at hsound
    rw [layoutAll, List.mem_append] at hb
    rcases hb with hb | hb
    · exact made_of_mem_layout chain hsound.1 b hb
    · exact made_of_mem_layoutAll hsound.2 b hb

mutual

theorem ids_layout (catalog : Catalog) : ∀ (chain : Chain) (parent previous : Option Ref) (n : Ref),
    (chain.layout catalog parent previous n).map Block.id = chain.ids
  | none, _, _, _ | unreadable _, _, _, _ => rfl
  | block header inputs next, parent, previous, n => by
    rw [layout, List.map_cons, List.map_append, ids_layoutInputs catalog inputs,
      ids_layout catalog next, headBlock_eq, ids]

theorem ids_layoutInputs (catalog : Catalog) : ∀ (inputs : List (String × Chain)) (r n : Ref),
    (layoutInputs catalog r n inputs).map Block.id = idsOfInputs inputs
  | [], _, _ => rfl
  | (_, chain) :: rest, r, n => by
    rw [layoutInputs, List.map_append, ids_layout catalog chain, ids_layoutInputs catalog rest,
      idsOfInputs]

end

theorem ids_layoutAll (catalog : Catalog) : ∀ (chains : List Chain) (n : Ref),
    (layoutAll catalog n chains).map Block.id = chains.flatMap ids
  | [], _ => rfl
  | chain :: rest, n => by
    rw [layoutAll, List.map_append, ids_layout, ids_layoutAll catalog rest, List.flatMap_cons]

theorem headsAll_numberedAll : ∀ (chains : List Chain) (n r : Nat),
    headsAll r (numberedAll n chains) = headsAll r chains
  | [], _, _ => rfl
  | chain :: rest, n, r => by
    rw [numberedAll, headsAll, headsAll, head?_numbered, size_numbered, headsAll_numberedAll rest]

theorem mem_numberedAll {chain : Chain} : ∀ {chains : List Chain} {n : Nat},
    chain ∈ numberedAll n chains → ∃ original ∈ chains, ∃ m, chain = original.numbered m
  | [], _, h => by simp [numberedAll] at h
  | first :: rest, n, h => by
    rcases List.mem_cons.1 h with rfl | h
    · exact ⟨first, List.mem_cons_self, n, rfl⟩
    · obtain ⟨original, horiginal, m, rfl⟩ := mem_numberedAll h
      exact ⟨original, List.mem_cons_of_mem _ horiginal, m, rfl⟩

end Chain

/-! ## Well-linked workspaces -/

/-- The references of a workspace are in order. -/
structure Workspace.WellLinked (catalog : Catalog) (w : Workspace) : Prop where
  /-- Each block is held exactly once, and nothing else is. -/
  held_once : (w.references.map Reference.target).Perm (List.range w.size)
  /-- The parent of a block is the block that holds it. -/
  parent_eq_holder : ∀ reference ∈ w.references, ∃ b,
    w.block? reference.target = some b ∧ b.parent = reference.holder
  parent_eq_none_iff_top : ∀ r b, w.block? r = some b → (b.parent = none ↔ r ∈ w.top)
  previous_of_next : ∀ r b s, w.block? r = some b → b.next = some s →
    ∃ c, w.block? s = some c ∧ c.previous = some r
  next_of_previous : ∀ s c r, w.block? s = some c → c.previous = some r →
    ∃ b, w.block? r = some b ∧ b.next = some s
  expression_in_value : ∀ r b name s, w.block? r = some b → b.valueInput name = some s →
    ∃ c, w.block? s = some c ∧ c.isStatement = false
  statement_in_statements : ∀ r b name s, w.block? r = some b → b.statementInput name = some s →
    ∃ c, w.block? s = some c ∧ c.isStatement = true
  statement_below : ∀ r b s, w.block? r = some b → b.next = some s →
    ∃ c, w.block? s = some c ∧ c.isStatement = true
  has_shape : ∀ r b, w.block? r = some b → ∃ shape, catalog b.kind = some shape ∧ b.HasShape shape
  distinct_ids : (w.blocks.toList.map Block.id).Nodup

namespace Block

variable {r : Ref} {b : Block}

theorem isStatement_of_previous {p : Ref} (h : b.previous = some p) : b.isStatement = true := by
  unfold previous at h
  split at h
  · next hlinkage => rw [isStatement, output, hlinkage]; rfl
  · cases h

theorem isSome_previous_of_port (h : (b.origin r).port = .next) : b.previous.isSome = true := by
  simp only [origin] at h
  split_ifs at h with hprevious
  exact hprevious

theorem isStatement_of_port (h : (b.origin r).port = .statements) : b.isStatement = true := by
  simp only [origin] at h
  split_ifs at h with _ _ hstatement
  exact hstatement

theorem not_isStatement_of_port (h : (b.origin r).port = .value) : b.isStatement = false := by
  simp only [origin] at h
  split_ifs at h with _ _ hstatement
  simpa using hstatement

end Block

/-- A workspace of made blocks whose references are those that the blocks tell is well linked. -/
theorem Workspace.wellLinked_of_perm {catalog : Catalog} {w : Workspace}
    (hcatalog : ∀ kind shape, catalog kind = some shape → shape.kind = kind)
    (hperm : w.references.Perm w.origins) (hmade : ∀ b ∈ w.blocks.toList, Chain.Made catalog b)
    (hids : (w.blocks.toList.map Block.id).Nodup) : w.WellLinked catalog := by
  have hmade' : ∀ {r b}, w.block? r = some b → Chain.Made catalog b := fun hb =>
    hmade _ (Array.mem_toList_iff.2 (Array.mem_of_getElem? hb))
  -- a block above another one is its parent, so it is also the one that holds it
  have hparent : ∀ {r b p}, w.block? r = some b → b.previous = some p → b.parent = some p := by
    intro r b p hb h
    obtain ⟨_, _, _, _, _, _, -, rfl⟩ := hmade' hb
    exact Chain.parent_headBlock_of_previous h
  have hnext : ∀ {r b s}, w.block? r = some b → b.next = some s →
      ∃ c, w.block? s = some c ∧ c.previous = some r := by
    intro r b s hb h
    obtain ⟨c, hc, horigin⟩ := origin_of_mem_references hperm (mem_references_of_next hb h)
    obtain ⟨p, hp⟩ := Option.isSome_iff_exists.1
      (Block.isSome_previous_of_port (congrArg Reference.port horigin))
    have hholder : c.parent = some r := congrArg Reference.holder horigin
    rw [hparent hc hp] at hholder
    exact ⟨c, hc, hp.trans hholder⟩
  exact {
    held_once := (hperm.map _).trans (by rw [targets_origins])
    parent_eq_holder := fun reference h => by
      obtain ⟨b, hb, horigin⟩ := origin_of_mem_references hperm h
      exact ⟨b, hb, congrArg Reference.holder horigin⟩
    parent_eq_none_iff_top := fun r b hb => parent_eq_none_iff hperm hb
    previous_of_next := fun r b s hb h => hnext hb h
    next_of_previous := fun s c r hc h => by
      have horigin := origin_mem_references hperm hc
      rw [Block.origin, h, hparent hc h] at horigin
      exact next_of_mem_references horigin
    expression_in_value := fun r b name s hb h => by
      obtain ⟨c, hc, horigin⟩ := origin_of_mem_references hperm (mem_references_of_value hb h)
      exact ⟨c, hc, Block.not_isStatement_of_port (congrArg Reference.port horigin)⟩
    statement_in_statements := fun r b name s hb h => by
      obtain ⟨c, hc, horigin⟩ := origin_of_mem_references hperm (mem_references_of_statements hb h)
      exact ⟨c, hc, Block.isStatement_of_port (congrArg Reference.port horigin)⟩
    statement_below := fun r b s hb h => by
      obtain ⟨c, hc, hprevious⟩ := hnext hb h
      exact ⟨c, hc, Block.isStatement_of_previous hprevious⟩
    has_shape := fun r b hb => by
      obtain ⟨shape, header, _, _, _, _, hkind, rfl⟩ := hmade' hb
      refine ⟨shape, ?_, Chain.hasShape_headBlock⟩
      rw [Chain.headBlock_eq, hcatalog _ _ hkind]
      exact hkind
    distinct_ids := hids }

/-- Blocks of the same id are at the same place. -/
theorem Workspace.WellLinked.ref_eq_of_id {catalog : Catalog} {w : Workspace}
    (hw : w.WellLinked catalog) {r s : Ref} {b c : Block} (hb : w.block? r = some b)
    (hc : w.block? s = some c) (hid : b.id = c.id) : r = s := by
  have hr : (w.blocks.toList.map Block.id)[r]? = some b.id := by
    rw [List.getElem?_map, Array.getElem?_toList]
    exact congrArg (Option.map Block.id) hb
  have hs : (w.blocks.toList.map Block.id)[s]? = some b.id := by
    rw [List.getElem?_map, Array.getElem?_toList, hid]
    exact congrArg (Option.map Block.id) hc
  obtain ⟨hlt, hget⟩ := List.getElem?_eq_some_iff.1 hr
  obtain ⟨hlt', hget'⟩ := List.getElem?_eq_some_iff.1 hs
  exact (hw.distinct_ids.getElem_inj_iff).1 (hget.trans hget'.symm)

/-! ## The workspace of a text -/

theorem Registry.kind_of_shape? {registry : Registry} {kind : String} {shape : Shape}
    (h : registry.shape? kind = some shape) : shape.kind = kind := by
  obtain ⟨d, hd, rfl⟩ := Option.map_eq_some_iff.1 h
  exact kind_of_get? hd

theorem SocketTag.name_of_ofName? {name : String} {tag : SocketTag} (h : ofName? name = some tag) :
    tag.name = name := by
  have hname := List.find?_some h
  rwa [beq_iff_eq] at hname

namespace Document

variable {catalog : Catalog} {document : Document}

theorem map_toVariable? : ∀ {declarations : List Declaration},
    (∀ v ∈ declarations, (SocketTag.ofName? v.type).isSome) →
      (declarations.filterMap Declaration.toVariable?).map (fun v => (v.id, v.name, v.tag.name)) =
        declarations.map fun v => (v.id, v.name, v.type)
  | [], _ => rfl
  | v :: rest, htags => by
    rw [List.forall_mem_cons] at htags
    obtain ⟨tag, htag⟩ := Option.isSome_iff_exists.1 htags.1
    have hv : Declaration.toVariable? v = some ⟨v.id, v.name, tag⟩ := by
      simp [Declaration.toVariable?, htag]
    rw [List.filterMap_cons, hv, List.map_cons, List.map_cons, map_toVariable? htags.2,
      SocketTag.name_of_ofName? htag]

/-- The chains of a grammatical document are sound, and each of them is there. -/
theorem sound_numbered (h : document.Grammatical catalog)
    (hstored : ∀ chain ∈ document.chains, ∃ draft, Chain.Stored (some draft) chain) :
    ∀ chain ∈ document.numbered, chain ≠ .none ∧ chain.Sound catalog .top := by
  intro chain hchain
  obtain ⟨original, horiginal, n, rfl⟩ := Chain.mem_numberedAll hchain
  obtain ⟨draft, hdraft⟩ := hstored original horiginal
  refine ⟨?_, hdraft.sound_numbered n ((grammatical_iff.1 h).2.1 original horiginal)⟩
  cases hdraft <;> simp [Chain.numbered]

theorem ids_workspace : (document.workspace catalog).blocks.toList.map Block.id = document.ids :=
  Chain.ids_layoutAll _ _ _

theorem top_workspace : (document.workspace catalog).top = Chain.headsAll 0 document.numbered :=
  (Chain.headsAll_numberedAll _ _ _).symm

section Sound

variable (hcatalog : ∀ kind shape, catalog kind = some shape → shape.kind = kind)
  (hsound : ∀ chain ∈ document.numbered, chain ≠ .none ∧ chain.Sound catalog .top)

include hcatalog hsound

theorem forest?_of_sound :
    (document.workspace catalog).forest? = some (document.forest catalog) := by
  rw [Workspace.forest?, top_workspace]
  refine Workspace.mapM_treeWithin_layoutAll hcatalog hsound ?_ (Workspace.holds_blocks _)
  exact Nat.le_of_eq (by simp [Workspace.size, Document.workspace])

theorem wellLinked_of_sound (hids : document.ids.Nodup) :
    (document.workspace catalog).WellLinked catalog := by
  refine Workspace.wellLinked_of_perm hcatalog ?_ ?_ (ids_workspace ▸ hids)
  · rw [Workspace.references, top_workspace]
    exact (Chain.perm_allOrigins_layoutAll fun chain hchain => (hsound chain hchain).2).symm
  · exact Chain.made_of_mem_layoutAll fun chain hchain => (hsound chain hchain).2

end Sound

section Stored

variable (hcatalog : ∀ kind shape, catalog kind = some shape → shape.kind = kind)
  (h : document.Grammatical catalog)
  (hstored : ∀ chain ∈ document.chains, ∃ draft, Chain.Stored (some draft) chain)

include hcatalog h hstored

/-- The workspace of a document holds the forest of the document. -/
theorem forest?_workspace :
    (document.workspace catalog).forest? = some (document.forest catalog) :=
  forest?_of_sound hcatalog (sound_numbered h hstored)

/-- The workspace of a document is well linked. -/
theorem wellLinked_workspace : (document.workspace catalog).WellLinked catalog :=
  wellLinked_of_sound hcatalog (sound_numbered h hstored) h.distinct_ids

end Stored

end Document

/-- **Parsing is faithful.** The workspace of a text holds the forest of the document that is stored
in the text, down to the last block, with the variables in order; its blocks stand in the order of
the walk through the document, and its references are in order. -/
theorem parse_faithful (registry : Registry) (text : String) (w : Workspace)
    (h : (parse registry.shape? text).workspace = some w) :
    ∃ document : Document, Document.ofText text = .ok document ∧ document.StoredIn text ∧
      w.forest? = some (document.forest registry.shape?) ∧
      w.blocks.toList.map Block.id = document.ids ∧
      w.declared.map (fun v => (v.id, v.name, v.tag.name)) =
        document.declarations.map (fun v => (v.id, v.name, v.type)) ∧
      w.WellLinked registry.shape? := by
  obtain ⟨document, hdocument, hgrammar, rfl⟩ := parse_workspace_eq_some_iff.1 h
  have hstored := Document.stored_of_ofText hdocument
  have hcatalog : ∀ kind shape, registry.shape? kind = some shape → shape.kind = kind :=
    fun _ _ => Registry.kind_of_shape?
  exact ⟨document, hdocument, Document.storedIn_iff.2 hdocument,
    Document.forest?_workspace hcatalog hgrammar hstored,
    Document.ids_workspace, Document.map_toVariable? hgrammar.known_tags,
    Document.wellLinked_workspace hcatalog hgrammar hstored⟩

/-- A document of two chains: a handler with two statements inside, where the input of the first one
has only a shadow, and a number that hangs nowhere. Structures are given as lists. -/
def handlerText : String :=
  "[[0, [[\"on_click\", null, true, \x7b\x7d, \x7b\"DO\": [[\"set_mass\", \"a\", true, " ++
    "\x7b\x7d, \x7b\"MASS\": [null, [\"math_number\"]]\x7d, [[\"set_sky_color\"]]]]\x7d], " ++
    "[\"math_number\"]]], [[\"s\", \"ball\", \"SHAPE\"]]]"

/-- A statement with a number in an input that has a shadow as well, and only a shadow below. -/
def connectedText : String :=
  "\x7b\"blocks\": \x7b\"blocks\": [\x7b\"type\": \"set_mass\", \"id\": \"a\", \"inputs\": " ++
    "\x7b\"MASS\": \x7b\"shadow\": \x7b\"type\": \"math_number\", \"id\": \"s\"\x7d, " ++
    "\"block\": \x7b\"type\": \"math_number\", \"fields\": \x7b\"NUM\": 3\x7d\x7d\x7d\x7d, " ++
    "\"next\": \x7b\"block\": null, \"shadow\": \x7b\"type\": \"set_sky_color\"\x7d\x7d\x7d]" ++
    "\x7d\x7d"

theorem parse_faithful_connectedText :
    (∃ w, (parse Registry.standard.shape? connectedText).workspace = some w ∧
      w.blocks.toList.map (fun b => (b.id, b.kind, b.fields.entries)) =
        [("a", "set_mass", []), ("__block1", "math_number", [("NUM", .number (.ofNat 3))]),
          ("__block2", "set_sky_color", [])] ∧
      ∃ document : Document, document.StoredIn connectedText ∧
        w.forest? = some (document.forest Registry.standard.shape?) ∧
        w.WellLinked Registry.standard.shape?) ∧
    ∃ w, (parse Registry.standard.shape? handlerText).workspace = some w ∧ w.size = 5 ∧
      w.blocks.toList.map Block.id = ["__block1", "a", "__block2", "__block3", "__block4"] ∧
      ∃ document : Document, document.StoredIn handlerText ∧
        w.forest? = some (document.forest Registry.standard.shape?) ∧
        w.WellLinked Registry.standard.shape? := by
  constructor
  · have hchars : connectedText.toList = _ :=
      Json.toList_append_of (Json.toList_append_of (Json.toList_append_of
        (Json.toList_append_of String.toList_ofList String.toList_ofList) String.toList_ofList)
        String.toList_ofList) String.toList_ofList
    have hsome : ((parse Registry.standard.shape? connectedText).workspace.map fun w =>
        w.blocks.toList.map fun b => (b.id, b.kind, b.fields.entries)) =
          some [("a", "set_mass", []), ("__block1", "math_number", [("NUM", .number (.ofNat 3))]),
            ("__block2", "set_sky_color", [])] := by
      rw [parse, Document.ofText, Json.decodeText, Json.Draft.ofText_of_toList hchars]
      decide +kernel
    obtain ⟨w, hw, hblocks⟩ := Option.map_eq_some_iff.1 hsome
    obtain ⟨document, -, hstored, hforest, -, -, hlinked⟩ :=
      parse_faithful Registry.standard connectedText w hw
    exact ⟨w, hw, hblocks, document, hstored, hforest, hlinked⟩
  · have hchars : handlerText.toList = _ :=
      Json.toList_append_of (Json.toList_append_of String.toList_ofList String.toList_ofList)
        String.toList_ofList
    have hsome : ((parse Registry.standard.shape? handlerText).workspace.map fun w =>
        (w.size, w.blocks.toList.map Block.id)) =
          some (5, ["__block1", "a", "__block2", "__block3", "__block4"]) := by
      rw [parse, Document.ofText, Json.decodeText, Json.Draft.ofText_of_toList hchars]
      decide +kernel
    obtain ⟨w, hw, hpair⟩ := Option.map_eq_some_iff.1 hsome
    obtain ⟨hsize, hids⟩ := Prod.mk.inj hpair
    obtain ⟨document, -, hstored, hforest, -, -, hlinked⟩ :=
      parse_faithful Registry.standard handlerText w hw
    exact ⟨w, hw, hsize, hids, document, hstored, hforest, hlinked⟩

end SceneScript
