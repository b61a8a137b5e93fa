import SceneScript.Kinds.Standard
import SceneScript.Proofs.Drafts
import SceneScript.Proofs.Grammar

/-!
# The blocks that linking comes by

Linking walks through a document, gives blocks their ids and reports what does not fit. Which block
a finding is about cannot be seen from the finding alone, and the workspace does not tell either, if
there are errors. Here the walk is described without a workspace, and each finding keeps the block
that it is about, with the id that the block has or that is made for it.

* `Visit`: a block that the walk comes by; `Visit.id`: its id.
* `Walk`, `Chain.walk`, `Document.walk`: the walk through a document and its findings.
* **`link_diagnostics`**: linking reports the findings of the walk.
* **`findings_name_blocks`**: findings name the blocks that they are about, with one exception.
-/

namespace SceneScript

/-! ## Walks -/

/-- The id that is made for a block without one if `n` such blocks have been numbered before. -/
def madeId (n : Nat) : String := "__block" ++ toString (n + 1)

/-- A block that the walk comes by. -/
structure Visit where
  header : Header
  /-- How many blocks without an id have been numbered before. -/
  before : Nat

/-- The id of a block: its own one, or the one that is made for it if it has none. -/
def Visit.id (v : Visit) : String := v.header.id.getD (madeId v.before)

/-- What the walk finds, and the block that this is about, unless something is no block at all. -/
structure Finding where
  visit : Option Visit
  problem : Problem

/-- The state of a walk: the ids in use, how many blocks have been numbered, and the findings. -/
structure Walk where
  ids : List String := []
  numbered : Nat := 0
  findings : List Finding := []

namespace Walk

/-- Something is found. -/
def find (w : Walk) (visit : Option Visit) (problem : Problem) : Walk :=
  { w with findings := w.findings ++ [⟨visit, problem⟩] }

/-- A block asks for its id. If it has none, it gets the next number, whether the id that is made
from the number is in use or not. -/
def count (w : Walk) (v : Visit) : Walk := { w with numbered := w.numbered + v.header.unnamed }

/-- A block asks for its id and gets it. -/
def take (w : Walk) (v : Visit) : Walk := { w.count v with ids := v.id :: w.ids }

/-- A block of some shape asks for its id and for its place. If it gets both, the walk goes on
inside of it. -/
def place (w : Walk) (shape : Shape) (asStatement : Bool) (nesting : Nat) (v : Visit)
    (inside : Walk → Walk) : Walk :=
  if v.id ∈ w.ids then (w.count v).find v (.duplicateBlock v.id)
  else if Linking.maxNesting < nesting then
    (w.take v).find v (.tooDeep v.id nesting Linking.maxNesting)
  else if shape.isStatement != asStatement then
    (w.take v).find v (.misplaced v.id shape.kind asStatement)
  else inside (w.take v)

end Walk

namespace Chain

mutual

/-- The walk through a chain of statements, or through an expression. -/
def walk (catalog : Catalog) (asStatement : Bool) (nesting : Nat) (w : Walk) : Chain → Walk
  | none => w
  | unreadable cause => w.find .none (.unreadableBlock cause)
  | block header inputs next =>
    let v : Visit := ⟨header, w.numbered⟩
    match catalog header.kind with
    | .none => w.find v (.unknownKind header.kind header.id)
    | some shape =>
      if !asStatement && !shape.isStatement && next.isSome then
        w.find v (.belowExpression (header.id.getD "") header.kind)
      else
        w.place shape asStatement nesting v fun w =>
          let w := walkInputs catalog nesting shape v w inputs
          if asStatement then next.walk catalog true nesting w else w

/-- The walk through the inputs of a block. -/
def walkInputs (catalog : Catalog) (nesting : Nat) (shape : Shape) (v : Visit) (w : Walk) :
    List (String × Chain) → Walk
  | [] => w
  | (name, chain) :: rest =>
    match shape.input? name with
    | .none =>
      walkInputs catalog nesting shape v (w.find v (.unknownInput v.id shape.kind name)) rest
    | some (.value _) =>
      walkInputs catalog nesting shape v (chain.walk catalog false (nesting + 1) w) rest
    | some .statements =>
      walkInputs catalog nesting shape v (chain.walk catalog true (nesting + 1) w) rest

end

/-- The walk through a top-level chain. -/
def walkTop (catalog : Catalog) (w : Walk) (chain : Chain) : Walk :=
  chain.walk catalog (!Linking.isExpression catalog chain) 0 w

end Chain

/-- The walk through a document. -/
def Document.walk (catalog : Catalog) (document : Document) : Walk :=
  document.chains.foldl (Chain.walkTop catalog) {}

namespace Declaration

/-- What is wrong with a declaration if some variables are declared already. -/
def problem? (declared : List Variable) (v : Declaration) : Option Problem :=
  if (SocketTag.ofName? v.type).isNone then some (.unknownTag v.name v.type)
  else if v.id ∈ declared.map Variable.id then some (.duplicateVariableId v.id)
  else if v.name ∈ declared.map Variable.name then some (.duplicateVariableName v.name)
  else none

/-- What is wrong with declarations one after another. -/
def problems (declared : List Variable) : List Declaration → List Problem
  | [] => []
  | v :: rest =>
    match v.problem? declared with
    | some problem => problem :: problems declared rest
    | none => problems (declared ++ v.toVariable?.toList) rest

end Declaration

/-- All that is found about a document: first about its variables, then about its blocks. -/
def Document.findings (catalog : Catalog) (document : Document) : List Finding :=
  (Declaration.problems [] document.declarations).map (Finding.mk none) ++
    (document.walk catalog).findings

/-! ## Linking follows the walk -/

namespace Linking

/-- Linking has come as far as a walk: the same ids are in use, as many blocks have been numbered,
and what has been reported since `reported` are the findings. -/
structure Tracks (reported : Diagnostics) (s : Linking) (w : Walk) : Prop where
  ids : s.ids = w.ids
  anonymous : s.anonymous = w.numbered
  diagnostics : s.diagnostics = reported.pushAll (w.findings.map fun f => f.problem.diagnostic)

section Steps

variable {reported : Diagnostics} {s : Linking} {w : Walk}

theorem Tracks.report (h : s.Tracks reported w) (visit : Option Visit) (problem : Problem) :
    ((report problem : Link Unit).run s).2.Tracks reported (w.find visit problem) where
  ids := h.ids
  anonymous := h.anonymous
  diagnostics := by
    rw [Walk.find, List.map_append, Diagnostics.pushAll_append, ← h.diagnostics]
    rfl

theorem Tracks.edit (h : s.Tracks reported w) (f : Workspace → Workspace) :
    ((edit f : Link Unit).run s).2.Tracks reported w :=
  ⟨h.ids, h.anonymous, h.diagnostics⟩

theorem Tracks.plugValue (h : s.Tracks reported w) (r : Ref) (input : String)
    (child : Option Ref) : ((plugValue r input child : Link Unit).run s).2.Tracks reported w :=
  h.edit _

theorem Tracks.plugStatements (h : s.Tracks reported w) (r : Ref) (input : String)
    (child : Option Ref) : ((plugStatements r input child : Link Unit).run s).2.Tracks reported w :=
  h.edit _

theorem Tracks.attach (h : s.Tracks reported w) (parent previous : Option Ref) (r : Ref) :
    ((attach parent previous r : Link Unit).run s).2.Tracks reported w := by
  cases previous with
  | none => exact h.edit _
  | some p => exact h.edit _

theorem run_claimId (header : Header) : (claimId header.id : Link (Option String)).run s =
    (takeId (s.nextId header) : Link (Option String)).run
      { s with anonymous := s.anonymous + header.unnamed } := by
  obtain ⟨kind, id, enabled, fields⟩ := header
  cases id <;> rfl

theorem run_place (shape : Shape) (header : Header) (asStatement : Bool) (nesting : Nat) :
    (place shape header asStatement nesting : Link (Option (Ref × String))).run s =
      let id := s.nextId header
      let counted : Linking := { s with anonymous := s.anonymous + header.unnamed }
      let taken : Linking := { counted with ids := id :: s.ids }
      if id ∈ s.ids then (none, ((report (.duplicateBlock id) : Link Unit).run counted).2)
      else if maxNesting < nesting then
        (none, ((report (.tooDeep id nesting maxNesting) : Link Unit).run taken).2)
      else if shape.isStatement != asStatement then
        (none, ((report (.misplaced id shape.kind asStatement) : Link Unit).run taken).2)
      else
        (some (s.workspace.nextRef, id),
          ((edit (·.insert (newBlock shape id header)) : Link Unit).run taken).2) := by
  rw [place, StateT.run_bind, run_claimId, run_takeId]
  dsimp only
  split_ifs <;> rfl

/-- A block gets its id and its place if it does so on the walk, and then linking goes on inside of
it; otherwise it stops there. -/
theorem Tracks.place (h : s.Tracks reported w) {shape : Shape} {header : Header}
    {asStatement : Bool} {nesting : Nat} {next : Option (Ref × String) → Link (Option Ref)}
    {inside : Walk → Walk}
    (hnone : ∀ {t : Linking} {w' : Walk}, t.Tracks reported w' →
      ((next none).run t).2.Tracks reported w')
    (hsome : ∀ {t : Linking} {w' : Walk}, t.Tracks reported w' →
      ((next (some (s.workspace.nextRef, Visit.id ⟨header, w.numbered⟩))).run t).2.Tracks reported
        (inside w')) :
    ((place shape header asStatement nesting >>= next).run s).2.Tracks reported
      (w.place shape asStatement nesting ⟨header, w.numbered⟩ inside) := by
  have hid : s.nextId header = Visit.id ⟨header, w.numbered⟩ := by
    rw [nextId, Visit.id, madeId, h.anonymous]
  have hcounted : Tracks reported { s with anonymous := s.anonymous + header.unnamed }
      (w.count ⟨header, w.numbered⟩) :=
    ⟨h.ids, congrArg (· + header.unnamed) h.anonymous, h.diagnostics⟩
  have htaken : Tracks reported { s with
      ids := Visit.id ⟨header, w.numbered⟩ :: s.ids
      anonymous := s.anonymous + header.unnamed } (w.take ⟨header, w.numbered⟩) :=
    ⟨congrArg _ h.ids, congrArg (· + header.unnamed) h.anonymous, h.diagnostics⟩
  rw [StateT.run_bind, run_place, hid, Walk.place, ← h.ids]
  dsimp only
  split_ifs
  · exact hnone (hcounted.report _ _)
  · exact hnone (htaken.report _ _)
  · exact hnone (htaken.report _ _)
  · exact hsome (htaken.edit (·.insert (newBlock shape (Visit.id ⟨header, w.numbered⟩) header)))

end Steps

section Walks

variable (catalog : Catalog) {reported : Diagnostics}

mutual

/-- Linking a chain follows the walk through it. -/
theorem tracks_linkChain : ∀ (chain : Chain) {nesting : Nat} {parent previous : Option Ref}
    {s : Linking} {w : Walk}, s.Tracks reported w →
      ((linkChain catalog nesting parent previous chain : Link (Option Ref)).run s).2.Tracks
        reported (chain.walk catalog true nesting w)
  | .none, _, _, _, _, _, h => h
  | .unreadable cause, _, _, _, _, _, h => h.report _ _
  | .block header inputs next, nesting, parent, previous, s, w, h => by
    rw [linkChain, Chain.walk]
    cases hkind : catalog header.kind with
    | none => exact h.report _ _
    | some shape =>
      dsimp only
      rw [Bool.not_true, Bool.false_and, Bool.false_and, if_neg Bool.false_ne_true]
      refine h.place (fun ht => ?_) (fun ht => ?_)
      · exact ht
      · exact tracks_linkChain next ((tracks_linkInputs inputs ht).attach parent previous _)

/-- Linking an expression follows the walk through it. -/
theorem tracks_linkValue : ∀ (chain : Chain) {nesting : Nat} {parent : Option Ref} {s : Linking}
    {w : Walk}, s.Tracks reported w →
      ((linkValue catalog nesting parent chain : Link (Option Ref)).run s).2.Tracks reported
        (chain.walk catalog false nesting w)
  | .none, _, _, _, _, h => h
  | .unreadable cause, _, _, _, _, h => h.report _ _
  | .block header inputs next, nesting, parent, s, w, h => by
    rw [linkValue, Chain.walk]
    cases hkind : catalog header.kind with
    | none => exact h.report _ _
    | some shape =>
      dsimp only
      rw [Bool.not_false, Bool.true_and]
      by_cases hbelow : (!shape.isStatement && next.isSome) = true
      · rw [if_pos hbelow, if_pos hbelow]
        exact h.report _ _
      · rw [if_neg hbelow, if_neg hbelow]
        refine h.place (fun ht => ?_) (fun ht => ?_)
        · exact ht
        · exact (tracks_linkInputs inputs ht).attach parent none _

/-- Linking the inputs of a block follows the walk through them. -/
theorem tracks_linkInputs : ∀ (inputs : List (String × Chain)) {nesting : Nat} {shape : Shape}
    {r : Ref} {v : Visit} {s : Linking} {w : Walk}, s.Tracks reported w →
      ((linkInputs catalog nesting shape r v.id inputs : Link Unit).run s).2.Tracks reported
        (Chain.walkInputs catalog nesting shape v w inputs)
  | [], _, _, _, _, _, _, h => h
  | (name, chain) :: rest, nesting, shape, r, v, s, w, h => by
    rw [linkInputs, Chain.walkInputs]
    cases shape.input? name with
    | none => exact tracks_linkInputs rest (h.report _ _)
    | some takes =>
      cases takes with
      | value accepts =>
        exact tracks_linkInputs rest ((tracks_linkValue chain h).plugValue r name
          ((linkValue catalog (nesting + 1) (some r) chain : Link (Option Ref)).run s).1)
      | statements =>
        exact tracks_linkInputs rest ((tracks_linkChain chain h).plugStatements r name
          ((linkChain catalog (nesting + 1) (some r) none chain : Link (Option Ref)).run s).1)

end

theorem tracks_linkTop (chain : Chain) {s : Linking} {w : Walk} (h : s.Tracks reported w) :
    ((linkTop catalog chain : Link Unit).run s).2.Tracks reported (chain.walkTop catalog w) := by
  have hpush : ∀ (head : Option Ref) {t : Linking} {w' : Walk}, t.Tracks reported w' →
      ((pushHead head : Link Unit).run t).2.Tracks reported w' := by
    intro head t w' ht
    cases head with
    | none => exact ht
    | some r => exact ht.edit _
  rw [linkTop, Chain.walkTop]
  split_ifs with hexpression
  · rw [hexpression]
    exact hpush _ (tracks_linkValue catalog chain h)
  · rw [Bool.not_eq_true] at hexpression
    rw [hexpression]
    exact hpush _ (tracks_linkChain catalog chain h)

theorem tracks_linkTops : ∀ (chains : List Chain) {s : Linking} {w : Walk}, s.Tracks reported w →
    ((chains.forM (linkTop catalog) : Link Unit).run s).2.Tracks reported
      (chains.foldl (Chain.walkTop catalog) w)
  | [], _, _, h => h
  | chain :: rest, _, _, h => tracks_linkTops rest (tracks_linkTop catalog chain h)

end Walks

theorem run_get_bind_link {α : Type} (f : Linking → Link α) (s : Linking) :
    (get >>= f).run s = (f s).run s := rfl

theorem run_declare (v : Declaration) (s : Linking) : ((declare v : Link Unit).run s).2 =
    (v.problem? s.workspace.declared).elim (s.afterDeclaration v)
      fun problem => ((report problem : Link Unit).run s).2 := by
  rw [declare, run_get_bind_link, Declaration.problem?, afterDeclaration,
    Declaration.toVariable?]
  cases SocketTag.ofName? v.type with
  | none => rfl
  | some tag =>
    simp only [isSome_declared?_iff, isSome_declaredByName?_iff, Option.isNone_some,
      Bool.false_eq_true, if_false]
    split_ifs <;> rfl

/-- Declaring variables reports what is wrong with their declarations. -/
theorem tracks_declareAll : ∀ (l : List Declaration) {reported : Diagnostics} {s : Linking},
    s.Tracks reported {} → ((l.forM declare : Link Unit).run s).2.Tracks
      (reported.pushAll ((Declaration.problems s.workspace.declared l).map Problem.diagnostic)) {}
  | [], _, _, h => h
  | v :: rest, reported, s, h => by
    show ((rest.forM declare : Link Unit).run ((declare v : Link Unit).run s).2).2.Tracks _ _
    rw [run_declare, Declaration.problems]
    cases v.problem? s.workspace.declared with
    | none =>
      have hdeclared : (s.afterDeclaration v).Tracks reported {} :=
        ⟨h.ids, h.anonymous, h.diagnostics⟩
      exact tracks_declareAll rest hdeclared
    | some problem =>
      have hreported : ((report problem : Link Unit).run s).2.Tracks
          (reported.push problem.diagnostic) {} :=
        ⟨h.ids, h.anonymous, congrArg (Diagnostics.push · problem.diagnostic) h.diagnostics⟩
      exact tracks_declareAll rest hreported

end Linking

/-- The diagnostic of a finding. -/
def Finding.diagnostic (f : Finding) : Diagnostic := f.problem.diagnostic

/-- Linking reports the findings of the walk. -/
theorem link_diagnostics (catalog : Catalog) (document : Document) :
    (link catalog document).diagnostics =
      Diagnostics.empty.pushAll ((document.findings catalog).map Finding.diagnostic) := by
  have hstart : Linking.Tracks .empty {} {} := ⟨rfl, rfl, rfl⟩
  have hdeclared := Linking.tracks_declareAll document.declarations hstart
  have hwalked := (Linking.tracks_linkTops catalog document.chains hdeclared).diagnostics
  rw [link_eq]
  refine hwalked.trans ?_
  rw [Document.findings, List.map_append, Diagnostics.pushAll_append, List.map_map]
  rfl

/-! ## The blocks that findings name -/

namespace Chain

mutual

/-- The blocks of a chain, from left to right. -/
def headers : Chain → List Header
  | none => []
  | unreadable _ => []
  | block header inputs next => header :: (headersInputs inputs ++ next.headers)

/-- The blocks in the inputs of a block. -/
def headersInputs : List (String × Chain) → List Header
  | [] => []
  | (_, chain) :: rest => chain.headers ++ headersInputs rest

end

end Chain

/-- The blocks of a document. -/
def Document.headers (document : Document) : List Header := document.chains.flatMap Chain.headers

namespace Finding

/-- What a walk can find about blocks: something is no block at all, or the finding comes before
the block asks for its id, or it comes after that and names the id. -/
inductive Fits (headers : List Header) : Finding → Prop
  | unreadableBlock (cause : Json.Cause) : Fits headers ⟨none, .unreadableBlock cause⟩
  | unknownKind {v : Visit} (hv : v.header ∈ headers) :
      Fits headers ⟨some v, .unknownKind v.header.kind v.header.id⟩
  | belowExpression {v : Visit} (hv : v.header ∈ headers) :
      Fits headers ⟨some v, .belowExpression (v.header.id.getD "") v.header.kind⟩
  | duplicateBlock {v : Visit} (hv : v.header ∈ headers) :
      Fits headers ⟨some v, .duplicateBlock v.id⟩
  | tooDeep {v : Visit} (hv : v.header ∈ headers) (nesting : Nat) :
      Fits headers ⟨some v, .tooDeep v.id nesting Linking.maxNesting⟩
  | misplaced {v : Visit} (hv : v.header ∈ headers) (kind : String) (asStatement : Bool) :
      Fits headers ⟨some v, .misplaced v.id kind asStatement⟩
  | unknownInput {v : Visit} (hv : v.header ∈ headers) (kind input : String) :
      Fits headers ⟨some v, .unknownInput v.id kind input⟩

/-- An expression without an id that something stands below: it is reported before an id is made
for it, and the empty text stands for the id. -/
def Nameless (f : Finding) : Prop :=
  ∃ v : Visit, f.visit = some v ∧ v.header.id = none ∧
    f.problem = .belowExpression "" v.header.kind

end Finding

namespace Walk

variable {hs : List Header} {w : Walk}

/-- All findings of a walk are about some blocks. -/
def Within (hs : List Header) (w : Walk) : Prop := ∀ f ∈ w.findings, f.Fits hs

theorem Within.find (h : w.Within hs) {visit : Option Visit} {problem : Problem}
    (hf : Finding.Fits hs ⟨visit, problem⟩) : (w.find visit problem).Within hs :=
  List.forall_mem_append.2 ⟨h, List.forall_mem_singleton.2 hf⟩

theorem Within.place (h : w.Within hs) {v : Visit} (hv : v.header ∈ hs) {shape : Shape}
    {asStatement : Bool} {nesting : Nat} {inside : Walk → Walk}
    (hinside : ∀ {w' : Walk}, w'.Within hs → (inside w').Within hs) :
    (w.place shape asStatement nesting v inside).Within hs := by
  have hcounted : (w.count v).Within hs := h
  have htaken : (w.take v).Within hs := h
  rw [Walk.place]
  split_ifs
  · exact hcounted.find (.duplicateBlock hv)
  · exact htaken.find (.tooDeep hv _)
  · exact htaken.find (.misplaced hv _ _)
  · exact hinside htaken

end Walk

section Fitting

variable (catalog : Catalog) {hs : List Header}

mutual

/-- The walk through a chain finds something only about blocks of the chain. -/
theorem within_walk : ∀ (chain : Chain) {asStatement : Bool} {nesting : Nat} {w : Walk},
    chain.headers ⊆ hs → w.Within hs → (chain.walk catalog asStatement nesting w).Within hs
  | .none, _, _, _, _, h => h
  | .unreadable cause, _, _, _, _, h => h.find (.unreadableBlock cause)
  | .block header inputs next, asStatement, nesting, w, hsub, h => by
    obtain ⟨hheader, hrest⟩ := List.cons_subset.1 hsub
    obtain ⟨hinputs, hnext⟩ := List.append_subset.1 hrest
    rw [Chain.walk]
    cases catalog header.kind with
    | none => exact h.find (.unknownKind hheader)
    | some shape =>
      dsimp only
      split_ifs
      · exact h.find (.belowExpression hheader)
      · exact h.place hheader fun hw =>
          within_walk next hnext (within_walkInputs inputs hinputs hheader hw)
      · exact h.place hheader fun hw => within_walkInputs inputs hinputs hheader hw

/-- The walk through inputs finds something only about blocks in them and about their owner. -/
theorem within_walkInputs : ∀ (inputs : List (String × Chain)) {nesting : Nat} {shape : Shape}
    {v : Visit} {w : Walk}, Chain.headersInputs inputs ⊆ hs → v.header ∈ hs → w.Within hs →
      (Chain.walkInputs catalog nesting shape v w inputs).Within hs
  | [], _, _, _, _, _, _, h => h
  | (name, chain) :: rest, nesting, shape, v, w, hsub, hv, h => by
    obtain ⟨hchain, hrest⟩ := List.append_subset.1 hsub
    rw [Chain.walkInputs]
    cases shape.input? name with
    | none => exact within_walkInputs rest hrest hv (h.find (.unknownInput hv _ _))
    | some takes =>
      cases takes with
      | value accepts => exact within_walkInputs rest hrest hv (within_walk chain hchain h)
      | statements => exact within_walkInputs rest hrest hv (within_walk chain hchain h)

end

theorem within_walkTops : ∀ (chains : List Chain) {w : Walk},
    chains.flatMap Chain.headers ⊆ hs → w.Within hs →
      (chains.foldl (Chain.walkTop catalog) w).Within hs
  | [], _, _, h => h
  | chain :: rest, w, hsub, h => by
    rw [List.flatMap_cons] at hsub
    obtain ⟨hchain, hrest⟩ := List.append_subset.1 hsub
    exact within_walkTops rest hrest (within_walk catalog chain hchain h)

theorem Document.within_walk (document : Document) :
    (document.walk catalog).Within document.headers :=
  within_walkTops catalog document.chains (List.Subset.refl _) (by simp [Walk.Within])

end Fitting

theorem Visit.id_ne_empty {v : Visit} (h : v.header.id = none) : v.id ≠ "" := by
  rw [Visit.id, h, Option.getD_none, madeId]
  intro hempty
  have hlength := congrArg String.length hempty
  rw [String.length_append] at hlength
  simp at hlength

/-- A finding that names an id is about a block, and the id is that of the block unless the block is
an expression without an id. -/
theorem Finding.Fits.block {hs : List Header} {f : Finding} (h : f.Fits hs) {id : String}
    (hid : f.diagnostic.block = some id) : ∃ v, f.visit = some v ∧ v.header ∈ hs ∧
      (id = v.id ↔ ¬ f.Nameless) ∧ (f.Nameless → id = "") := by
  have hnamed {v : Visit} {problem : Problem}
      (hproblem : ∀ kind, problem ≠ .belowExpression "" kind) :
      (v.id = v.id ↔ ¬ Nameless ⟨some v, problem⟩) ∧ (Nameless ⟨some v, problem⟩ → v.id = "") := by
    have hnot : ¬ Nameless ⟨some v, problem⟩ := fun ⟨_, _, _, heq⟩ => hproblem _ heq
    exact ⟨iff_of_true rfl hnot, fun hf => absurd hf hnot⟩
  cases h with
  | unreadableBlock cause => cases hid
  | @unknownKind v hv =>
    have hid : v.header.id = some id := hid
    have hvid : v.id = id := by rw [Visit.id, hid, Option.getD_some]
    subst hvid
    exact ⟨v, rfl, hv, hnamed nofun⟩
  | @belowExpression v hv =>
    obtain rfl : v.header.id.getD "" = id := Option.some.inj hid
    refine ⟨v, rfl, hv, ?_⟩
    cases hname : v.header.id with
    | none =>
      have hf : Nameless ⟨some v, .belowExpression "" v.header.kind⟩ := ⟨v, rfl, hname, rfl⟩
      exact ⟨iff_of_false (Visit.id_ne_empty hname).symm (not_not_intro hf), fun _ => rfl⟩
    | some own =>
      have hvid : v.id = own := by rw [Visit.id, hname, Option.getD_some]
      have hnot : ¬ Nameless ⟨some v, .belowExpression own v.header.kind⟩ := by
        rintro ⟨u, hu, hnone, -⟩
        obtain rfl : v = u := Option.some.inj hu
        rw [hname] at hnone
        cases hnone
      exact ⟨iff_of_true hvid.symm hnot, fun hf => absurd hf hnot⟩
  | @duplicateBlock v hv => exact ⟨v, rfl, hv, Option.some.inj hid ▸ hnamed nofun⟩
  | @tooDeep v hv nesting => exact ⟨v, rfl, hv, Option.some.inj hid ▸ hnamed nofun⟩
  | @misplaced v hv kind asStatement =>
    exact ⟨v, rfl, hv, Option.some.inj hid ▸ hnamed nofun⟩
  | @unknownInput v hv kind input => exact ⟨v, rfl, hv, Option.some.inj hid ▸ hnamed nofun⟩

/-- Whatever is wrong with declarations is wrong with one of them. -/
theorem Declaration.exists_of_mem_problems : ∀ {l : List Declaration} {declared : List Variable}
    {problem : Problem}, problem ∈ problems declared l →
      ∃ v ∈ l, ∃ before, v.problem? before = some problem
  | [], _, _, h => by cases h
  | v :: rest, declared, problem, h => by
    rw [problems] at h
    cases hv : v.problem? declared with
    | none =>
      rw [hv] at h
      obtain ⟨u, hu, hproblem⟩ := exists_of_mem_problems h
      exact ⟨u, List.mem_cons_of_mem v hu, hproblem⟩
    | some first =>
      rw [hv] at h
      rcases List.mem_cons.1 h with rfl | hrest
      · exact ⟨v, List.mem_cons_self, declared, hv⟩
      · obtain ⟨u, hu, hproblem⟩ := exists_of_mem_problems hrest
        exact ⟨u, List.mem_cons_of_mem v hu, hproblem⟩

/-- Findings about declarations name no block. -/
theorem Declaration.block_of_mem_problems {l : List Declaration} {declared : List Variable}
    {problem : Problem} (h : problem ∈ problems declared l) : problem.diagnostic.block = none := by
  obtain ⟨v, -, before, hv⟩ := exists_of_mem_problems h
  rw [problem?] at hv
  split_ifs at hv <;> cases hv <;> rfl

/-- All that is found about a text. -/
def textFindings (catalog : Catalog) (text : String) : List Finding :=
  match Document.ofText text with
  | .ok document => document.findings catalog
  | .error cause => [⟨none, .unreadableDocument cause⟩]

/-- The diagnostics of a text are its findings, in their order. A finding that names an id is about
a block of the document, and the id is the one that the block has or the one that is made for it,
with exactly one exception: an expression without an id that something stands below is named by the
empty text. -/
theorem findings_name_blocks (catalog : Catalog) (text : String) :
    (parse catalog text).diagnostics =
        Diagnostics.empty.pushAll ((textFindings catalog text).map Finding.diagnostic) ∧
      ∀ f ∈ textFindings catalog text, ∀ id, f.diagnostic.block = some id →
        ∃ document v, Document.ofText text = .ok document ∧ f.visit = some v ∧
          v.header ∈ document.headers ∧ (id = v.id ↔ ¬ f.Nameless) ∧ (f.Nameless → id = "") := by
  cases hdocument : Document.ofText text with
  | error cause =>
    rw [parse_of_error hdocument, textFindings, hdocument]
    refine ⟨rfl, fun f hf id hid => ?_⟩
    rw [List.mem_singleton.1 hf] at hid
    cases hid
  | ok document =>
    rw [parse_of_ok hdocument, textFindings, hdocument]
    refine ⟨link_diagnostics catalog document, fun f hf id hid => ?_⟩
    rcases List.mem_append.1 hf with hdeclaration | hblock
    · obtain ⟨problem, hproblem, rfl⟩ := List.mem_map.1 hdeclaration
      exact absurd ((Declaration.block_of_mem_problems hproblem).symm.trans hid) nofun
    · obtain ⟨v, hv⟩ := (document.within_walk catalog f hblock).block hid
      exact ⟨document, v, rfl, hv⟩

/-- An expression without an id, and a statement below it. -/
def danglingText : String :=
  "\x7b\"blocks\":\x7b\"languageVersion\":0,\"blocks\":[" ++
  "\x7b\"type\":\"coords\",\"next\":\x7b\"block\":\x7b\"type\":\"set_sky_color\"," ++
  "\"id\":\"s\"\x7d\x7d\x7d]\x7d\x7d"

/-- The only block that `danglingText` can be blamed for would get the id `__block1`, but the
diagnostic names a block that does not exist. -/
theorem danglingText_nameless :
    (parse Registry.standard.shape? danglingText).diagnostics.errors =
        [{ code := 205, block := some "",
           message := "expression block 'coords' cannot have a next block" }] ∧
      (textFindings Registry.standard.shape? danglingText).map
        (fun f => f.visit.map fun v => (v.header.id, v.id)) = [some (none, "__block1")] ∧
      (Document.ofText danglingText).toOption.map (fun d => d.headers.map Header.id) =
        some [none, some "s"] := by
  have hchars : danglingText.toList = _ :=
    Json.toList_append_of (Json.toList_append_of String.toList_ofList String.toList_ofList)
      String.toList_ofList
  rw [parse, textFindings, Document.ofText, Json.decodeText, Json.Draft.ofText_of_toList hchars]
  decide +kernel

end SceneScript
