import Mathlib.Data.List.Basic
import Mathlib.Data.List.Nodup
import Mathlib.Tactic.Tauto
import SceneScript.Kinds.Standard
import SceneScript.Proofs.Linking
import SceneScript.Proofs.Stored

/-!
# The grammar of documents

Linking a document gives a workspace exactly if the document obeys a grammar, which is stated here
block by block and without any state. The workspace is then the layout of the document.

* `Document.Grammatical`: what a document has to obey.
* `Document.workspace`: the workspace that a document describes.
* **`parse_accepts_iff`**: a text has a workspace exactly if it has no errors, and exactly if a
  grammatical document is stored in it.
-/

namespace SceneScript

/-! ## Declarations -/

/-- The variable that is declared, if its tag is known. -/
def Declaration.toVariable? (v : Declaration) : Option Variable :=
  (SocketTag.ofName? v.type).map fun tag => ⟨v.id, v.name, tag⟩

/-- A declaration whose tag is known and whose id and name are new. -/
structure Declaration.New (declared : List Variable) (v : Declaration) : Prop where
  known_tag : (SocketTag.ofName? v.type).isSome
  new_id : v.id ∉ declared.map Variable.id
  new_name : v.name ∉ declared.map Variable.name

namespace Linking

variable {s s' : Linking}

theorem isSome_declared?_iff {w : Workspace} {id : String} :
    (w.declared? id).isSome ↔ id ∈ w.declared.map Variable.id := by
  simp only [Workspace.declared?, List.find?_isSome, beq_iff_eq, List.mem_map]

theorem isSome_declaredByName?_iff {w : Workspace} {name : String} :
    (w.declaredByName? name).isSome ↔ name ∈ w.declared.map Variable.name := by
  simp only [Workspace.declaredByName?, List.find?_isSome, beq_iff_eq, List.mem_map]

theorem steady_declare (v : Declaration) : Steady (declare v) := by
  refine steady_bind steady_get fun s => ?_
  dsimp only
  cases SocketTag.ofName? v.type with
  | none => exact steady_report _
  | some tag =>
    dsimp only
    split_ifs
    · exact steady_report _
    · exact steady_report _
    · exact steady_edit _

/-- The state after a declaration. -/
def afterDeclaration (s : Linking) (v : Declaration) : Linking :=
  { s with workspace := { s.workspace with
      declared := s.workspace.declared ++ v.toVariable?.toList } }

theorem clean_declare_iff {v : Declaration} {u : Unit} :
    Clean (declare v) s u s' ↔ v.New s.workspace.declared ∧ u = () ∧ s' = s.afterDeclaration v := by
  rw [declare, clean_get_bind_iff]
  dsimp only
  cases htag : SocketTag.ofName? v.type with
  | none =>
    refine iff_of_false (not_clean_report rfl) ?_
    rintro ⟨hnew, -⟩
    simpa [htag] using hnew.known_tag
  | some tag =>
    dsimp only
    split_ifs with hid hname
    · refine iff_of_false (not_clean_report rfl) ?_
      rintro ⟨hnew, -⟩
      exact hnew.new_id (isSome_declared?_iff.1 hid)
    · refine iff_of_false (not_clean_report rfl) ?_
      rintro ⟨hnew, -⟩
      exact hnew.new_name (isSome_declaredByName?_iff.1 hname)
    · have hnew : v.New s.workspace.declared :=
        ⟨by simp [htag], fun h => hid (isSome_declared?_iff.2 h),
          fun h => hname (isSome_declaredByName?_iff.2 h)⟩
      rw [clean_edit_iff]
      simp [hnew, afterDeclaration, Declaration.toVariable?, htag, Workspace.declare]

theorem fresh_congr {used used' ids : List String} (h : ∀ id, id ∈ used ↔ id ∈ used') :
    Fresh used ids ↔ Fresh used' ids := by
  simp only [Fresh, h]

theorem steady_forM {α : Type} {f : α → Link Unit} (hf : ∀ a, Steady (f a)) :
    ∀ l : List α, Steady (l.forM f)
  | [] => steady_pure _
  | a :: l => steady_bind (hf a) fun _ => steady_forM hf l

theorem clean_forM_cons_iff {α : Type} {f : α → Link Unit} (hf : ∀ a, Steady (f a)) {a : α}
    {l : List α} {c : Prop} {t : Linking} (h : ∀ u t', Clean (f a) s u t' ↔ c ∧ u = () ∧ t' = t)
    {u : Unit} : Clean ((a :: l).forM f) s u s' ↔ c ∧ Clean (l.forM f) t u s' :=
  clean_bind_iff_of (hf a) (fun _ => steady_forM hf l) h

/-- Declarations are clean exactly if their tags are known and no id and no name is declared
twice. -/
theorem clean_declareAll_iff : ∀ {l : List Declaration} {s s' : Linking} {u : Unit},
    Clean (l.forM declare) s u s' ↔
      ((∀ v ∈ l, (SocketTag.ofName? v.type).isSome) ∧
        Fresh (s.workspace.declared.map Variable.id) (l.map Declaration.id) ∧
        Fresh (s.workspace.declared.map Variable.name) (l.map Declaration.name)) ∧
      u = () ∧ s' = { s with workspace := { s.workspace with
        declared := s.workspace.declared ++ l.filterMap Declaration.toVariable? } }
  | [], s, s', u => by
    refine clean_pure_iff.trans ?_
    simp [fresh_nil]
  | v :: l, s, s', u => by
    rw [clean_forM_cons_iff steady_declare fun _ _ => clean_declare_iff, clean_declareAll_iff]
    by_cases hv : v.New s.workspace.declared
    · obtain ⟨tag, htag⟩ := Option.isSome_iff_exists.1 hv.known_tag
      have hvar : v.toVariable? = some ⟨v.id, v.name, tag⟩ := by
        simp [Declaration.toVariable?, htag]
      have hids : Fresh (s.workspace.declared.map Variable.id) ((v :: l).map Declaration.id) ↔
          Fresh ((s.afterDeclaration v).workspace.declared.map Variable.id)
            (l.map Declaration.id) := by
        rw [List.map_cons, fresh_cons_iff, and_iff_right hv.new_id]
        exact fresh_congr fun id => by simp [afterDeclaration, hvar, or_comm]
      have hnames : Fresh (s.workspace.declared.map Variable.name) ((v :: l).map Declaration.name) ↔
          Fresh ((s.afterDeclaration v).workspace.declared.map Variable.name)
            (l.map Declaration.name) := by
        rw [List.map_cons, fresh_cons_iff, and_iff_right hv.new_name]
        exact fresh_congr fun name => by simp [afterDeclaration, hvar, or_comm]
      rw [hids, hnames, List.forall_mem_cons, and_iff_right hv, and_iff_right hv.known_tag]
      simp [afterDeclaration, hvar]
    · refine iff_of_false (fun h => hv h.1) ?_
      rintro ⟨⟨htags, hids, hnames⟩, -⟩
      rw [List.map_cons, fresh_cons_iff] at hids hnames
      exact hv ⟨htags v List.mem_cons_self, hids.1, hnames.1⟩

/-! ## Top-level blocks -/

section Tops

variable (catalog : Catalog)

/-- A top-level block fits as an expression or as a statement, whichever it is. -/
theorem fits_top_iff {chain : Chain} : chain.Fits catalog .top 0 ↔
    if isExpression catalog chain then chain.Fits catalog .value 0
    else chain.Fits catalog .statements 0 := by
  cases chain with
  | none => simp [Chain.fits_none]
  | unreadable cause => simp [Chain.not_fits_unreadable]
  | block header inputs next =>
    cases hkind : catalog header.kind with
    | none => simp [Chain.not_fits_of_unknown hkind]
    | some shape =>
      simp only [Chain.fits_block_iff hkind, isExpression, hkind, Option.any_some]
      cases shape.isStatement <;> simp

theorem steady_pushHead (head : Option Ref) : Steady (pushHead head) := by
  cases head with
  | none => exact steady_pure _
  | some r => exact steady_edit _

theorem steady_linkTop (chain : Chain) : Steady (linkTop catalog chain) := by
  rw [linkTop]
  split_ifs
  · exact steady_bind (steady_linkValue catalog chain 0 none) steady_pushHead
  · exact steady_bind (steady_linkChain catalog chain 0 none none) steady_pushHead

/-- The state after a clean walk through a top-level chain. -/
def afterTop (s : Linking) (chain : Chain) : Linking :=
  let t := afterChain catalog s none none chain
  { t with workspace := { t.workspace with
      top := t.workspace.top ++ (chain.head? s.workspace.size).toList } }

theorem clean_pushHead_iff {chain : Chain} {u : Unit} :
    Clean (pushHead (chain.head? s.workspace.size)) (afterChain catalog s none none chain) u s' ↔
      u = () ∧ s' = afterTop catalog s chain := by
  cases h : chain.head? s.workspace.size with
  | none =>
    rw [pushHead, clean_pure_iff]
    simp [afterTop, h]
  | some r =>
    rw [pushHead, clean_edit_iff]
    simp [afterTop, h, Workspace.pushTop]

theorem clean_linkTop_iff {chain : Chain} {u : Unit} :
    Clean (linkTop catalog chain) s u s' ↔
      (chain.Fits catalog .top 0 ∧ Fresh s.ids (chain.numbered s.anonymous).ids) ∧
        u = () ∧ s' = afterTop catalog s chain := by
  rw [linkTop, fits_top_iff]
  split_ifs
  · rw [clean_bind_iff_of (steady_linkValue catalog chain 0 none) steady_pushHead
      fun _ _ => clean_linkValue_iff catalog chain, clean_pushHead_iff]
  · rw [clean_bind_iff_of (steady_linkChain catalog chain 0 none none) steady_pushHead
      fun _ _ => clean_linkChain_iff catalog chain (by simp), clean_pushHead_iff]

/-- The state after a clean walk through top-level chains. -/
def afterTops (s : Linking) (chains : List Chain) : Linking :=
  s.grow
    { s.workspace.append
        (Chain.layoutAll catalog s.workspace.size (Chain.numberedAll s.anonymous chains)) with
      top := s.workspace.top ++ Chain.headsAll s.workspace.size chains }
    ((Chain.numberedAll s.anonymous chains).flatMap Chain.ids) (Chain.unnamedAll chains)

theorem afterTops_cons (s : Linking) (chain : Chain) (chains : List Chain) :
    afterTops catalog (afterTop catalog s chain) chains =
      afterTops catalog s (chain :: chains) := by
  simp [afterTops, afterTop, afterChain, grow, Workspace.hang, Workspace.append, Workspace.size,
    Chain.numberedAll, Chain.layoutAll, Chain.headsAll, Chain.unnamedAll, Nat.add_assoc]

/-- Top-level blocks are clean exactly if every block fits and no id is used twice. -/
theorem clean_linkTops_iff : ∀ {chains : List Chain} {s s' : Linking} {u : Unit},
    Clean (chains.forM (linkTop catalog)) s u s' ↔
      ((∀ chain ∈ chains, chain.Fits catalog .top 0) ∧
        Fresh s.ids ((Chain.numberedAll s.anonymous chains).flatMap Chain.ids)) ∧
      u = () ∧ s' = afterTops catalog s chains
  | [], s, s', u => by
    refine clean_pure_iff.trans ?_
    simp [fresh_nil, afterTops, grow, Chain.numberedAll, Chain.layoutAll, Chain.headsAll,
      Chain.unnamedAll]
  | chain :: chains, s, s', u => by
    rw [clean_forM_cons_iff (steady_linkTop catalog) fun _ _ => clean_linkTop_iff catalog,
      clean_linkTops_iff, afterTops_cons, List.forall_mem_cons, Chain.numberedAll,
      List.flatMap_cons, fresh_append_iff]
    simp only [afterTop, afterChain, grow]
    tauto

end Tops

end Linking

/-! ## Documents -/

/-- What a document has to obey: its variables are well declared, every block in it can be read, is
of a known kind, stands in at most `maxNesting` inputs, and is a statement or an expression as its
place asks for; nothing is below an expression, inputs are those of the shape, and no id is used
twice. -/
structure Document.Grammatical (catalog : Catalog) (document : Document) : Prop where
  known_tags : ∀ v ∈ document.declarations, (SocketTag.ofName? v.type).isSome
  distinct_variable_ids : (document.declarations.map Declaration.id).Nodup
  distinct_variable_names : (document.declarations.map Declaration.name).Nodup
  readable : ∀ site ∈ document.sites catalog, ∀ cause, site.found ≠ .unreadable cause
  known_kinds : ∀ site ∈ document.sites catalog, ∀ header inputs next,
    site.found = .block header inputs next → (catalog header.kind).isSome
  nesting_le : ∀ site ∈ document.sites catalog, site.nesting ≤ Linking.maxNesting
  statements : ∀ site ∈ document.sites catalog, ∀ header inputs next shape,
    site.found = .block header inputs next → catalog header.kind = some shape →
    site.position = .statements → shape.isStatement = true
  expressions : ∀ site ∈ document.sites catalog, ∀ header inputs next shape,
    site.found = .block header inputs next → catalog header.kind = some shape →
    site.position = .value → shape.isStatement = false
  nothing_below : ∀ site ∈ document.sites catalog, ∀ header inputs next shape,
    site.found = .block header inputs next → catalog header.kind = some shape →
    shape.isStatement = false → next = .none
  known_inputs : ∀ site ∈ document.sites catalog, ∀ header inputs next shape,
    site.found = .block header inputs next → catalog header.kind = some shape →
    ∀ input ∈ inputs, (shape.input? input.1).isSome
  distinct_ids : document.ids.Nodup

/-- The workspace that a document describes. -/
def Document.workspace (catalog : Catalog) (document : Document) : Workspace where
  blocks := (Chain.layoutAll catalog 0 document.numbered).toArray
  top := Chain.headsAll 0 document.chains
  declared := document.declarations.filterMap Declaration.toVariable?

mutual

theorem Chain.found_ne_none {catalog : Catalog} : ∀ (chain : Chain) {position : Position}
    {nesting : Nat}, ∀ site ∈ chain.sites catalog position nesting, site.found ≠ .none
  | .none, _, _, site, hsite => by simp [sites] at hsite
  | .unreadable cause, _, _, site, hsite => by
    rw [sites, List.mem_singleton] at hsite
    subst hsite
    simp
  | .block header inputs next, _, _, site, hsite => by
    rw [sites, List.mem_cons, List.mem_append] at hsite
    rcases hsite with rfl | hsite | hsite
    · simp
    · exact found_ne_none_of_inputs inputs site hsite
    · exact found_ne_none next site hsite

theorem Chain.found_ne_none_of_inputs {catalog : Catalog} : ∀ (inputs : List (String × Chain))
    {shape : Option Shape} {nesting : Nat},
      ∀ site ∈ sitesOfInputs catalog shape nesting inputs, site.found ≠ .none
  | [], _, _, site, hsite => by simp [sitesOfInputs] at hsite
  | (name, chain) :: rest, _, _, site, hsite => by
    rw [sitesOfInputs, List.mem_append] at hsite
    rcases hsite with hsite | hsite
    · exact found_ne_none chain site hsite
    · exact found_ne_none_of_inputs rest site hsite

end

namespace Document

variable {catalog : Catalog} {document : Document}

/-- The grammar says of each block that it fits its place. -/
theorem grammatical_iff : document.Grammatical catalog ↔
    ((∀ v ∈ document.declarations, (SocketTag.ofName? v.type).isSome) ∧
      (document.declarations.map Declaration.id).Nodup ∧
      (document.declarations.map Declaration.name).Nodup) ∧
    (∀ chain ∈ document.chains, chain.Fits catalog .top 0) ∧ document.ids.Nodup := by
  have hsites : (∀ chain ∈ document.chains, chain.Fits catalog .top 0) ↔
      ∀ site ∈ document.sites catalog, site.Fits catalog := by
    simp only [sites, List.mem_flatMap, Chain.Fits]
    constructor
    · rintro h site ⟨chain, hchain, hsite⟩
      exact h chain hchain site hsite
    · intro h chain hchain site hsite
      exact h site ⟨chain, hchain, hsite⟩
  rw [hsites]
  constructor
  · intro h
    refine ⟨⟨h.known_tags, h.distinct_variable_ids, h.distinct_variable_names⟩, ?_, h.distinct_ids⟩
    intro site hsite
    obtain ⟨chain, -, hchain⟩ := List.mem_flatMap.1 hsite
    cases hfound : site.found with
    | none => exact absurd hfound (chain.found_ne_none site hchain)
    | unreadable cause => exact absurd hfound (h.readable site hsite cause)
    | block header inputs next =>
      obtain ⟨shape, hshape⟩ :=
        Option.isSome_iff_exists.1 (h.known_kinds site hsite header inputs next hfound)
      exact ⟨header, inputs, next, shape, hfound, hshape, h.nesting_le site hsite,
        h.statements site hsite _ _ _ _ hfound hshape,
        h.expressions site hsite _ _ _ _ hfound hshape,
        h.nothing_below site hsite _ _ _ _ hfound hshape,
        h.known_inputs site hsite _ _ _ _ hfound hshape⟩
  · rintro ⟨⟨htags, hids, hnames⟩, hfits, hblocks⟩
    have hblock : ∀ site ∈ document.sites catalog, ∀ header inputs next shape,
        site.found = .block header inputs next → catalog header.kind = some shape →
        (site.position = .statements → shape.isStatement = true) ∧
        (site.position = .value → shape.isStatement = false) ∧
        (shape.isStatement = false → next = .none) ∧
        ∀ input ∈ inputs, (shape.input? input.1).isSome := by
      intro site hsite header inputs next shape hfound hshape
      obtain ⟨_, _, _, _, hfound', hshape', -, h⟩ := hfits site hsite
      rw [hfound] at hfound'
      cases hfound'
      rw [hshape] at hshape'
      cases hshape'
      exact h
    exact {
      known_tags := htags
      distinct_variable_ids := hids
      distinct_variable_names := hnames
      readable := fun site hsite cause hfound => by
        obtain ⟨_, _, _, _, hfound', -⟩ := hfits site hsite
        rw [hfound] at hfound'
        cases hfound'
      known_kinds := fun site hsite header inputs next hfound => by
        obtain ⟨_, _, _, _, hfound', hshape, -⟩ := hfits site hsite
        rw [hfound] at hfound'
        cases hfound'
        simp [hshape]
      nesting_le := fun site hsite => by
        obtain ⟨_, _, _, _, -, -, hnesting, -⟩ := hfits site hsite
        exact hnesting
      statements := fun site hsite _ _ _ _ hfound hshape =>
        (hblock site hsite _ _ _ _ hfound hshape).1
      expressions := fun site hsite _ _ _ _ hfound hshape =>
        (hblock site hsite _ _ _ _ hfound hshape).2.1
      nothing_below := fun site hsite _ _ _ _ hfound hshape =>
        (hblock site hsite _ _ _ _ hfound hshape).2.2.1
      known_inputs := fun site hsite _ _ _ _ hfound hshape =>
        (hblock site hsite _ _ _ _ hfound hshape).2.2.2
      distinct_ids := hblocks }

end Document

namespace Linking

/-- Linking a document is clean exactly if the document is grammatical, and then yields the
workspace that it describes. -/
theorem clean_linkDocument_iff {catalog : Catalog} {document : Document} {s : Linking} {u : Unit} :
    Clean (linkDocument catalog document) {} u s ↔ document.Grammatical catalog ∧ u = () ∧
      s = { workspace := document.workspace catalog, diagnostics := {}, ids := document.ids.reverse
            anonymous := Chain.unnamedAll document.chains } := by
  have hfresh : ∀ ids : List String, Fresh [] ids ↔ ids.Nodup := by simp [Fresh]
  rw [linkDocument, clean_bind_iff_of (steady_forM steady_declare _)
    (fun _ => steady_forM (steady_linkTop catalog) _) fun _ _ => clean_declareAll_iff,
    clean_linkTops_iff, Document.grammatical_iff]
  simp only [List.map_nil, hfresh, List.nil_append]
  simp [afterTops, grow, Document.workspace, Document.ids, Document.numbered, Workspace.append,
    Workspace.size, and_assoc]

end Linking

section Results

variable {catalog : Catalog} {document : Document}

theorem link_eq : link catalog document =
    let s := ((Linking.linkDocument catalog document).run {}).2
    ⟨if s.errors = 0 then some s.workspace else none, s.diagnostics⟩ := by
  show Linked.mk (if Diagnostics.hasErrors _ = true then none else some _) _ = _
  simp only [Diagnostics.hasErrors, decide_eq_true_eq, Linking.errors, Nat.pos_iff_ne_zero, ne_eq,
    ite_not]
  rfl

/-- The run of linking a document is clean exactly if no error is left in the end. -/
theorem clean_linkDocument_run_iff {s : Linking}
    (hs : ((Linking.linkDocument catalog document).run {}).2 = s) :
    Linking.Clean (Linking.linkDocument catalog document) {} () s ↔ s.errors = 0 := by
  subst hs
  exact ⟨fun h => h.2, fun h => ⟨rfl, h⟩⟩

/-- A document has no errors exactly if it is grammatical. -/
theorem link_totalErrors_eq_zero_iff :
    (link catalog document).diagnostics.totalErrors = 0 ↔ document.Grammatical catalog := by
  rw [link_eq]
  show Linking.errors _ = 0 ↔ _
  rw [← clean_linkDocument_run_iff rfl, Linking.clean_linkDocument_iff]
  refine ⟨fun h => h.1, fun h => ⟨h, rfl, ?_⟩⟩
  exact congrArg Prod.snd (Linking.clean_linkDocument_iff.2 ⟨h, rfl, rfl⟩).1

/-- A document has a workspace exactly if it is grammatical; it is then the one that it
describes. -/
theorem link_workspace_eq_some_iff {w : Workspace} :
    (link catalog document).workspace = some w ↔
      document.Grammatical catalog ∧ w = document.workspace catalog := by
  rw [link_eq]
  dsimp only
  constructor
  · intro h
    split_ifs at h with herr
    obtain ⟨hgram, -, hs⟩ :=
      Linking.clean_linkDocument_iff.1 ((clean_linkDocument_run_iff rfl).2 herr)
    rw [hs] at h
    exact ⟨hgram, (Option.some.inj h).symm⟩
  · rintro ⟨hgram, rfl⟩
    have hclean := Linking.clean_linkDocument_iff.2 ⟨hgram, rfl, rfl⟩
    rw [congrArg Prod.snd hclean.1]
    rfl

theorem parse_of_ok {text : String} (h : Document.ofText text = .ok document) :
    parse catalog text = link catalog document := by
  rw [parse, h]

theorem parse_of_error {text : String} {cause : Json.Cause}
    (h : Document.ofText text = .error cause) :
    parse catalog text =
      ⟨none, Diagnostics.empty.push (Problem.unreadableDocument cause).diagnostic⟩ := by
  rw [parse, h]

/-- A text has a workspace exactly if it is a grammatical document. -/
theorem parse_workspace_eq_some_iff {text : String} {w : Workspace} :
    (parse catalog text).workspace = some w ↔
      ∃ document, Document.ofText text = .ok document ∧ document.Grammatical catalog ∧
        w = document.workspace catalog := by
  cases htext : Document.ofText text with
  | ok document => simp [parse_of_ok htext, link_workspace_eq_some_iff]
  | error cause => simp [parse_of_error htext]

end Results

/-- **A text has a workspace exactly if it has no errors, and exactly if a grammatical document is
stored in it.** -/
theorem parse_accepts_iff (catalog : Catalog) (text : String) :
    ((parse catalog text).workspace.isSome ↔ (parse catalog text).diagnostics.totalErrors = 0) ∧
    ((parse catalog text).workspace.isSome ↔
      ∃ document : Document, document.StoredIn text ∧ document.Grammatical catalog) := by
  have hgram : (parse catalog text).workspace.isSome ↔
      ∃ document, Document.ofText text = .ok document ∧ document.Grammatical catalog := by
    rw [Option.isSome_iff_exists]
    constructor
    · rintro ⟨w, hw⟩
      obtain ⟨document, hdoc, hgram, -⟩ := parse_workspace_eq_some_iff.1 hw
      exact ⟨document, hdoc, hgram⟩
    · rintro ⟨document, hdoc, hgram⟩
      exact ⟨_, parse_workspace_eq_some_iff.2 ⟨document, hdoc, hgram, rfl⟩⟩
  refine ⟨?_, by simpa only [Document.storedIn_iff] using hgram⟩
  rw [hgram]
  cases htext : Document.ofText text with
  | ok document => simp [parse_of_ok htext, link_totalErrors_eq_zero_iff]
  | error cause =>
    rw [parse_of_error htext]
    simp [Diagnostics.push, Problem.diagnostic, Diagnostic.severityOf, Diagnostic.categoryOf]

/-- A statement whose input has a block and a shadow. -/
def pluggedText (block shadow : String) : String :=
  "\x7b\"blocks\": \x7b\"blocks\": [\x7b\"type\": \"set_mass\", \"inputs\": \x7b\"MASS\": " ++
    ("\x7b\"shadow\": " ++ (shadow ++ (", \"block\": " ++ (block ++ "\x7d\x7d\x7d]\x7d\x7d"))))

/-- A number that is connected makes up for a shadow of no known kind, and a shadow counts where the
block is `null`; but a number that is only the shadow does not make up for what is connected. -/
theorem parse_accepts_iff_pluggedText :
    (∃ document : Document, document.StoredIn (pluggedText "[\"math_number\"]" "[\"stray\"]") ∧
      document.Grammatical Registry.standard.shape?) ∧
    (∃ document : Document, document.StoredIn (pluggedText "null" "[\"math_number\"]") ∧
      document.Grammatical Registry.standard.shape?) ∧
    (parse Registry.standard.shape?
      (pluggedText "[\"stray\"]" "[\"math_number\"]")).diagnostics.totalErrors = 1 ∧
    ¬∃ document : Document, document.StoredIn (pluggedText "[\"stray\"]" "[\"math_number\"]") ∧
      document.Grammatical Registry.standard.shape? := by
  have hchars (block shadow : String) {l m : List Char} (hl : block.toList = l)
      (hm : shadow.toList = m) : (pluggedText block shadow).toList = _ :=
    Json.toList_append_of String.toList_ofList (Json.toList_append_of String.toList_ofList
      (Json.toList_append_of hm (Json.toList_append_of String.toList_ofList
        (Json.toList_append_of hl String.toList_ofList))))
  have hblock : (parse Registry.standard.shape?
      (pluggedText "[\"math_number\"]" "[\"stray\"]")).diagnostics.totalErrors = 0 := by
    rw [parse, Document.ofText, Json.decodeText,
      Json.Draft.ofText_of_toList
        (hchars "[\"math_number\"]" "[\"stray\"]" String.toList_ofList String.toList_ofList)]
    decide +kernel
  have hshadow : (parse Registry.standard.shape?
      (pluggedText "null" "[\"math_number\"]")).diagnostics.totalErrors = 0 := by
    rw [parse, Document.ofText, Json.decodeText,
      Json.Draft.ofText_of_toList
        (hchars "null" "[\"math_number\"]" String.toList_ofList String.toList_ofList)]
    decide +kernel
  have hstray : (parse Registry.standard.shape?
      (pluggedText "[\"stray\"]" "[\"math_number\"]")).diagnostics.totalErrors = 1 := by
    rw [parse, Document.ofText, Json.decodeText,
      Json.Draft.ofText_of_toList
        (hchars "[\"stray\"]" "[\"math_number\"]" String.toList_ofList String.toList_ofList)]
    decide +kernel
  have haccepts (text : String) := parse_accepts_iff Registry.standard.shape? text
  refine ⟨(haccepts _).2.1 ((haccepts _).1.2 hblock), (haccepts _).2.1 ((haccepts _).1.2 hshadow),
    hstray, fun h => ?_⟩
  have hnone := (haccepts _).1.1 ((haccepts _).2.2 h)
  rw [hstray] at hnone
  cases hnone

end SceneScript
