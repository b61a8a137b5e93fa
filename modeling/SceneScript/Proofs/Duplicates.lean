import Mathlib.Data.List.Nodup
import Mathlib.Data.List.Perm.Basic
import SceneScript.Proofs.Faithful
import SceneScript.Proofs.Visits

/-!
# Ids that are made and ids that are given

Blocks without an id are numbered, and the ids that are made from the numbers are taken into use
like all others: it is not asked first whether a block of the document has such an id of its own. If
one has, the two blocks get into each other's way, whichever of them comes first.

* `idsFrom`: the ids of blocks one after another.
* `Document.reached`: the blocks that ask for an id, as long as each of them gets it.
* `Claims`: what a part of the walk does to the ids in use.
* **`no_duplicate_iff`**: if no two blocks are given the same id, an id is refused exactly if some
  block is given an id that is made for another one.
-/

namespace SceneScript

/-! ## Made ids -/

theorem madeId_injective : Function.Injective madeId := by
  intro m n h
  have hlist := congrArg String.toList h
  rw [madeId, madeId, String.toList_append, String.toList_append,
    List.append_cancel_left_eq] at hlist
  have hvalue := congrArg (fun digits => Nat.ofDigitChars 10 digits 0) hlist
  simpa using hvalue

/-- The ids of blocks one after another if `n` blocks without an id come before them. -/
def idsFrom (n : Nat) : List Header → List String
  | [] => []
  | header :: rest => header.id.getD (madeId n) :: idsFrom (n + header.unnamed) rest

/-- How many of the blocks have no id. -/
def unnamedOf (hs : List Header) : Nat := hs.countP (·.id.isNone)

theorem unnamedOf_cons (header : Header) (hs : List Header) :
    unnamedOf (header :: hs) = header.unnamed + unnamedOf hs := by
  rw [unnamedOf, List.countP_cons, Nat.add_comm, Header.unnamed, unnamedOf]

theorem unnamedOf_append (hs hs' : List Header) :
    unnamedOf (hs ++ hs') = unnamedOf hs + unnamedOf hs' :=
  List.countP_append

theorem idsFrom_append : ∀ (n : Nat) (hs hs' : List Header),
    idsFrom n (hs ++ hs') = idsFrom n hs ++ idsFrom (n + unnamedOf hs) hs'
  | n, [], hs' => rfl
  | n, header :: hs, hs' => by
    rw [List.cons_append, idsFrom, idsFrom, idsFrom_append, unnamedOf_cons, Nat.add_assoc]
    rfl

/-- The ids of blocks are those that they are given, and those that are made. -/
theorem idsFrom_perm : ∀ (n : Nat) (hs : List Header), (idsFrom n hs).Perm
    (hs.filterMap Header.id ++ (List.range' n (unnamedOf hs)).map madeId)
  | n, [] => List.Perm.refl _
  | n, header :: hs => by
    have ih := idsFrom_perm (n + header.unnamed) hs
    rw [idsFrom, unnamedOf_cons]
    cases hid : header.id with
    | none =>
      have hunnamed : header.unnamed = 1 := by simp [Header.unnamed, hid]
      rw [hunnamed] at ih ⊢
      rw [List.filterMap_cons_none hid, Nat.add_comm 1, List.range'_succ, List.map_cons]
      exact (ih.cons _).trans List.perm_middle.symm
    | some id =>
      have hunnamed : header.unnamed = 0 := by simp [Header.unnamed, hid]
      rw [hunnamed] at ih ⊢
      rw [List.filterMap_cons_some hid, Nat.zero_add]
      exact ih.cons id

/-- If the blocks are given different ids, all their ids differ exactly if none of them is given an
id that is made. -/
theorem nodup_idsFrom_iff {hs : List Header} (h : (hs.filterMap Header.id).Nodup) :
    (idsFrom 0 hs).Nodup ↔
      ∀ header ∈ hs, ∀ n < unnamedOf hs, header.id ≠ some (madeId n) := by
  have hmade : ((List.range' 0 (unnamedOf hs)).map madeId).Nodup :=
    List.Nodup.map madeId_injective (List.nodup_range' ..)
  rw [(idsFrom_perm 0 hs).nodup_iff, List.nodup_append]
  simp only [h, hmade, true_and, List.mem_filterMap, List.mem_map, List.mem_range'_1]
  constructor
  · intro hne header hheader n hn hid
    exact hne (madeId n) ⟨header, hheader, hid⟩ (madeId n) ⟨n, by omega, rfl⟩ rfl
  · rintro hne id ⟨header, hheader, hid⟩ made ⟨n, hn, rfl⟩ rfl
    exact hne header hheader n (by omega) hid

/-! ## Blocks that ask for an id -/

namespace Chain

mutual

/-- The blocks of a chain that ask for an id, as long as each of them gets it. -/
def reached (catalog : Catalog) (asStatement : Bool) (nesting : Nat) : Chain → List Header
  | none => []
  | unreadable _ => []
  | block header inputs next =>
    match catalog header.kind with
    | .none => []
    | some shape =>
      if !asStatement && !shape.isStatement && next.isSome then []
      else if Linking.maxNesting < nesting || shape.isStatement != asStatement then [header]
      else if asStatement then
        header :: (reachedInputs catalog nesting shape inputs ++ next.reached catalog true nesting)
      else header :: reachedInputs catalog nesting shape inputs

/-- The blocks in inputs that ask for an id. -/
def reachedInputs (catalog : Catalog) (nesting : Nat) (shape : Shape) :
    List (String × Chain) → List Header
  | [] => []
  | (name, chain) :: rest =>
    match shape.input? name with
    | .none => reachedInputs catalog nesting shape rest
    | some (.value _) =>
      chain.reached catalog false (nesting + 1) ++ reachedInputs catalog nesting shape rest
    | some .statements =>
      chain.reached catalog true (nesting + 1) ++ reachedInputs catalog nesting shape rest

end

/-- The blocks of a top-level chain that ask for an id. -/
def reachedTop (catalog : Catalog) (chain : Chain) : List Header :=
  chain.reached catalog (!Linking.isExpression catalog chain) 0

end Chain

/-- The blocks of a document that ask for an id. -/
def Document.reached (catalog : Catalog) (document : Document) : List Header :=
  document.chains.flatMap (Chain.reachedTop catalog)

mutual

theorem Chain.reached_sublist (catalog : Catalog) : ∀ (chain : Chain) {asStatement : Bool}
    {nesting : Nat}, (chain.reached catalog asStatement nesting).Sublist chain.headers
  | .none, _, _ => List.Sublist.refl _
  | .unreadable _, _, _ => List.Sublist.refl _
  | .block header inputs next, asStatement, nesting => by
    rw [Chain.reached, Chain.headers]
    cases catalog header.kind with
    | none => exact List.nil_sublist _
    | some shape =>
      have hheader : [header].Sublist (header :: (Chain.headersInputs inputs ++ next.headers)) :=
        (List.nil_sublist _).cons_cons header
      have hinputs : (Chain.reachedInputs catalog nesting shape inputs).Sublist
          (Chain.headersInputs inputs) := Chain.reachedInputs_sublist catalog inputs
      dsimp only
      split_ifs
      · exact List.nil_sublist _
      · exact hheader
      · exact (hinputs.append (Chain.reached_sublist catalog next)).cons_cons header
      · exact (hinputs.trans (List.sublist_append_left _ _)).cons_cons header

theorem Chain.reachedInputs_sublist (catalog : Catalog) : ∀ (inputs : List (String × Chain))
    {nesting : Nat} {shape : Shape},
      (Chain.reachedInputs catalog nesting shape inputs).Sublist (Chain.headersInputs inputs)
  | [], _, _ => List.Sublist.refl _
  | (name, chain) :: rest, nesting, shape => by
    have hrest : (Chain.reachedInputs catalog nesting shape rest).Sublist
        (Chain.headersInputs rest) := Chain.reachedInputs_sublist catalog rest
    rw [Chain.reachedInputs, Chain.headersInputs]
    cases shape.input? name with
    | none => exact hrest.trans (List.sublist_append_right _ _)
    | some takes =>
      cases takes with
      | value accepts => exact (Chain.reached_sublist catalog chain).append hrest
      | statements => exact (Chain.reached_sublist catalog chain).append hrest

end

theorem Document.reached_sublist (catalog : Catalog) (document : Document) :
    (document.reached catalog).Sublist document.headers := by
  rw [Document.reached, Document.headers]
  induction document.chains with
  | nil => exact List.Sublist.refl _
  | cons chain rest ih =>
    rw [List.flatMap_cons, List.flatMap_cons]
    exact (chain.reached_sublist catalog).append ih

/-! ## What a part of the walk takes into use -/

/-- No id has been refused. -/
def Walk.Single (w : Walk) : Prop := ∀ f ∈ w.findings, f.diagnostic.code ≠ 200

/-- A part of the walk in which some blocks ask for their ids: no id is refused exactly if all of
them are new, and then they are in use afterwards. -/
structure Claims (part : Walk → Walk) (hs : List Header) : Prop where
  single_iff : ∀ w, (part w).Single ↔ w.Single ∧ Linking.Fresh w.ids (idsFrom w.numbered hs)
  mem_ids_iff : ∀ w, (part w).Single → ∀ id,
    id ∈ (part w).ids ↔ id ∈ (idsFrom w.numbered hs).reverse ++ w.ids
  numbered : ∀ w, (part w).Single → (part w).numbered = w.numbered + unnamedOf hs

theorem Walk.single_find_iff {w : Walk} {visit : Option Visit} {problem : Problem} :
    (w.find visit problem).Single ↔ w.Single ∧ problem.diagnostic.code ≠ 200 := by
  rw [Single, Single, find, List.forall_mem_append, List.forall_mem_singleton]
  rfl

theorem claims_rest : Claims (fun w => w) [] where
  single_iff w := by simp [idsFrom, Linking.fresh_nil]
  mem_ids_iff w _ id := Iff.rfl
  numbered w _ := rfl

theorem claims_find {visit : Walk → Option Visit} {problem : Problem}
    (h : problem.diagnostic.code ≠ 200) : Claims (fun w => w.find (visit w) problem) [] where
  single_iff w := by simp [Walk.single_find_iff, h, idsFrom, Linking.fresh_nil]
  mem_ids_iff w _ id := Iff.rfl
  numbered w _ := rfl

/-- Two parts of the walk one after the other. -/
theorem Claims.comp {part part' : Walk → Walk} {hs hs' : List Header} (h' : Claims part' hs')
    (h : Claims part hs) : Claims (fun w => part' (part w)) (hs ++ hs') where
  single_iff w := by
    rw [h'.single_iff, idsFrom_append, Linking.fresh_append_iff]
    constructor
    · rintro ⟨hsingle, hfresh⟩
      obtain ⟨hw, hfirst⟩ := (h.single_iff w).1 hsingle
      rw [h.numbered w hsingle, Linking.fresh_congr (h.mem_ids_iff w hsingle)] at hfresh
      exact ⟨hw, hfirst, hfresh⟩
    · rintro ⟨hw, hfirst, hfresh⟩
      have hsingle := (h.single_iff w).2 ⟨hw, hfirst⟩
      rw [h.numbered w hsingle, Linking.fresh_congr (h.mem_ids_iff w hsingle)]
      exact ⟨hsingle, hfresh⟩
  mem_ids_iff w hsingle id := by
    have hfirst := ((h'.single_iff (part w)).1 hsingle).1
    rw [h'.mem_ids_iff _ hsingle, idsFrom_append, h.numbered w hfirst, List.reverse_append,
      List.append_assoc, List.mem_append, List.mem_append, h.mem_ids_iff w hfirst]
  numbered w hsingle := by
    have hfirst := ((h'.single_iff (part w)).1 hsingle).1
    rw [h'.numbered _ hsingle, h.numbered w hfirst, unnamedOf_append, Nat.add_assoc]

/-- A block asks for its id. If it gets it, the walk goes on, with the block at hand. -/
theorem Claims.cons {part : Visit → Walk → Walk} {hs : List Header} (h : ∀ v, Claims (part v) hs)
    (header : Header) : Claims (fun w =>
      let v : Visit := ⟨header, w.numbered⟩
      if v.id ∈ w.ids then (w.count v).find v (.duplicateBlock v.id) else part v (w.take v))
      (header :: hs) := by
  have hrefused {w : Walk} {v : Visit} :
      ¬ ((w.count v).find v (.duplicateBlock v.id)).Single := by
    rw [Walk.single_find_iff]
    exact fun hsingle => hsingle.2 rfl
  have hid (w : Walk) : idsFrom w.numbered (header :: hs) =
      Visit.id ⟨header, w.numbered⟩ :: idsFrom (w.numbered + header.unnamed) hs := rfl
  refine ⟨fun w => ?_, fun w hsingle id => ?_, fun w hsingle => ?_⟩
  all_goals dsimp only at *
  · rw [hid, Linking.fresh_cons_iff]
    split_ifs with hused
    · exact iff_of_false hrefused fun hfresh => hfresh.2.1 hused
    · rw [(h _).single_iff]
      exact and_congr_right fun _ => ⟨fun hfresh => ⟨hused, hfresh⟩, fun hfresh => hfresh.2⟩
  · split_ifs at hsingle ⊢ with hused
    · exact absurd hsingle hrefused
    · rw [(h _).mem_ids_iff _ hsingle, hid, List.reverse_cons, List.append_assoc]
      rfl
  · split_ifs at hsingle ⊢ with hused
    · exact absurd hsingle hrefused
    · rw [(h _).numbered _ hsingle, unnamedOf_cons, ← Nat.add_assoc]
      rfl

/-- A block asks for its id and for its place. -/
theorem Claims.place {inside : Visit → Walk → Walk} {hs : List Header}
    (h : ∀ v, Claims (inside v) hs) (header : Header) (shape : Shape) (asStatement : Bool)
    (nesting : Nat) : Claims (fun w =>
      w.place shape asStatement nesting ⟨header, w.numbered⟩ (inside ⟨header, w.numbered⟩))
      (if Linking.maxNesting < nesting || shape.isStatement != asStatement then [header]
        else header :: hs) := by
  by_cases hdeep : Linking.maxNesting < nesting
  · have hstop (v : Visit) : Claims
        (fun w => w.find v (.tooDeep v.id nesting Linking.maxNesting)) [] :=
      claims_find (by simp [Problem.diagnostic])
    simpa [Walk.place, hdeep] using Claims.cons hstop header
  by_cases hmisplaced : (shape.isStatement != asStatement) = true
  · have hstop (v : Visit) : Claims
        (fun w => w.find v (.misplaced v.id shape.kind asStatement)) [] :=
      claims_find (by simp [Problem.diagnostic])
    simpa [Walk.place, hdeep, hmisplaced] using Claims.cons hstop header
  · simpa [Walk.place, hdeep, hmisplaced] using Claims.cons h header

section Parts

variable (catalog : Catalog)

mutual

/-- The walk through a chain takes the ids of the blocks in it that it reaches. -/
theorem claims_walk : ∀ (chain : Chain) (asStatement : Bool) (nesting : Nat),
    Claims (fun w => chain.walk catalog asStatement nesting w)
      (chain.reached catalog asStatement nesting)
  | .none, _, _ => claims_rest
  | .unreadable _, _, _ => claims_find (by simp [Problem.diagnostic])
  | .block header inputs next, asStatement, nesting => by
    simp only [Chain.walk, Chain.reached]
    cases catalog header.kind with
    | none => exact claims_find (by simp [Problem.diagnostic])
    | some shape =>
      dsimp only
      by_cases hbelow : (!asStatement && !shape.isStatement && next.isSome) = true
      · simp only [if_pos hbelow]
        exact claims_find (by simp [Problem.diagnostic])
      · simp only [if_neg hbelow]
        have hinputs := claims_walkInputs inputs nesting shape
        cases asStatement with
        | false => exact Claims.place (fun v => hinputs v) header shape false nesting
        | true =>
          exact Claims.place (fun v => (claims_walk next true nesting).comp (hinputs v)) header
            shape true nesting

theorem claims_walkInputs : ∀ (inputs : List (String × Chain)) (nesting : Nat) (shape : Shape)
    (v : Visit), Claims (fun w => Chain.walkInputs catalog nesting shape v w inputs)
      (Chain.reachedInputs catalog nesting shape inputs)
  | [], _, _, _ => claims_rest
  | (name, chain) :: rest, nesting, shape, v => by
    have hrest := claims_walkInputs rest nesting shape v
    simp only [Chain.walkInputs, Chain.reachedInputs]
    cases shape.input? name with
    | none => exact hrest.comp (claims_find (by simp [Problem.diagnostic]))
    | some takes =>
      cases takes with
      | value accepts => exact hrest.comp (claims_walk chain false (nesting + 1))
      | statements => exact hrest.comp (claims_walk chain true (nesting + 1))

end

theorem claims_walkTops : ∀ chains : List Chain,
    Claims (fun w => chains.foldl (Chain.walkTop catalog) w)
      (chains.flatMap (Chain.reachedTop catalog))
  | [] => claims_rest
  | chain :: rest => (claims_walkTops rest).comp (claims_walk catalog chain _ 0)

end Parts

/-- No id of a document is refused exactly if the blocks that are reached have different ids. -/
theorem Document.single_walk_iff (catalog : Catalog) (document : Document) :
    (document.walk catalog).Single ↔ (idsFrom 0 (document.reached catalog)).Nodup := by
  rw [Document.walk, (claims_walkTops catalog document.chains).single_iff]
  have hstart : Walk.Single {} := by simp [Walk.Single]
  simp [hstart, Linking.Fresh, Document.reached]

theorem Document.findings_single_iff (catalog : Catalog) (document : Document) :
    (∀ f ∈ document.findings catalog, f.diagnostic.code ≠ 200) ↔
      (document.walk catalog).Single := by
  rw [Document.findings, List.forall_mem_append, List.forall_mem_map]
  refine and_iff_right fun problem hproblem => ?_
  obtain ⟨v, -, before, hv⟩ := Declaration.exists_of_mem_problems hproblem
  rw [Declaration.problem?] at hv
  split_ifs at hv <;> cases hv <;> simp [Finding.diagnostic, Problem.diagnostic]

/-! ## Ids of accepted documents -/

mutual

theorem Chain.unnamed_eq : ∀ chain : Chain, chain.unnamed = unnamedOf chain.headers
  | .none => rfl
  | .unreadable _ => rfl
  | .block header inputs next => by
    rw [Chain.unnamed, Chain.headers, unnamedOf_cons, unnamedOf_append, Chain.unnamedInputs_eq,
      Chain.unnamed_eq next, Nat.add_assoc]

theorem Chain.unnamedInputs_eq : ∀ inputs : List (String × Chain),
    Chain.unnamedInputs inputs = unnamedOf (Chain.headersInputs inputs)
  | [] => rfl
  | (_, chain) :: rest => by
    rw [Chain.unnamedInputs, Chain.headersInputs, unnamedOf_append, Chain.unnamed_eq,
      Chain.unnamedInputs_eq]

end

mutual

theorem Chain.ids_numbered : ∀ (chain : Chain) (n : Nat),
    (chain.numbered n).ids = idsFrom n chain.headers
  | .none, _ => rfl
  | .unreadable _, _ => rfl
  | .block header inputs next, n => by
    rw [Chain.numbered, Chain.ids, Chain.headers, idsFrom, idsFrom_append,
      Chain.idsOfInputs_numbered, Chain.ids_numbered next, Chain.unnamedInputs_eq]
    rfl

theorem Chain.idsOfInputs_numbered : ∀ (inputs : List (String × Chain)) (n : Nat),
    Chain.idsOfInputs (Chain.numberedInputs n inputs) = idsFrom n (Chain.headersInputs inputs)
  | [], _ => rfl
  | (_, chain) :: rest, n => by
    rw [Chain.numberedInputs, Chain.idsOfInputs, Chain.headersInputs, idsFrom_append,
      Chain.ids_numbered, Chain.idsOfInputs_numbered, Chain.unnamed_eq]

end

theorem Chain.ids_numberedAll : ∀ (chains : List Chain) (n : Nat),
    (Chain.numberedAll n chains).flatMap Chain.ids = idsFrom n (chains.flatMap Chain.headers)
  | [], _ => rfl
  | chain :: rest, n => by
    rw [Chain.numberedAll, List.flatMap_cons, List.flatMap_cons, idsFrom_append,
      Chain.ids_numbered, Chain.ids_numberedAll, Chain.unnamed_eq]

theorem Document.ids_eq (document : Document) : document.ids = idsFrom 0 document.headers :=
  Chain.ids_numberedAll document.chains 0

/-- If no two blocks of a document are given the same id, an id is refused exactly if one of the
blocks that ask for an id is given one that is made for another of them. In a workspace all blocks
have different ids: those that they are given, and those that are made. -/
theorem no_duplicate_iff (catalog : Catalog) (text : String) (document : Document)
    (hdocument : Document.ofText text = .ok document)
    (hgiven : (document.headers.filterMap Header.id).Nodup) :
    (parse catalog text).diagnostics =
        Diagnostics.empty.pushAll ((document.findings catalog).map Finding.diagnostic) ∧
      ((∀ f ∈ document.findings catalog, f.diagnostic.code ≠ 200) ↔
        ∀ header ∈ document.reached catalog, ∀ n < unnamedOf (document.reached catalog),
          header.id ≠ some (madeId n)) ∧
      ∀ w, (parse catalog text).workspace = some w →
        w.blocks.toList.map Block.id = idsFrom 0 document.headers ∧
          (w.blocks.toList.map Block.id).Nodup := by
  refine ⟨?_, ?_, fun w hw => ?_⟩
  · rw [parse_of_ok hdocument, link_diagnostics]
  · rw [Document.findings_single_iff, Document.single_walk_iff, nodup_idsFrom_iff]
    exact hgiven.sublist ((document.reached_sublist catalog).filterMap Header.id)
  · obtain ⟨document', hdocument', hgrammatical, rfl⟩ := parse_workspace_eq_some_iff.1 hw
    obtain rfl : document = document' := Except.ok.inj (hdocument.symm.trans hdocument')
    rw [Document.ids_workspace]
    exact ⟨document.ids_eq, hgrammatical.distinct_ids⟩

/-- Three blocks without an id, and one with an id like those that are made. -/
def sparseText : String :=
  "\x7b\"blocks\":\x7b\"blocks\":[\x7b\"type\":\"set_sky_color\"\x7d," ++
  "\x7b\"type\":\"set_sky_color\",\"id\":\"__block4\"\x7d,\x7b\"type\":\"on_click\",\"inputs\":" ++
  "\x7b\"DO\":\x7b\"block\":\x7b\"type\":\"set_sky_color\"\x7d\x7d\x7d\x7d]\x7d\x7d"

theorem no_duplicate_sparseText : ∃ document,
    Document.ofText sparseText = .ok document ∧
      document.headers.filterMap Header.id = ["__block4"] ∧
      (∀ f ∈ document.findings Registry.standard.shape?, f.diagnostic.code ≠ 200) ∧
      ∃ w, (parse Registry.standard.shape? sparseText).workspace = some w ∧
        w.blocks.toList.map Block.id = ["__block1", "__block4", "__block2", "__block3"] := by
  have hchars : sparseText.toList = _ :=
    Json.toList_append_of (Json.toList_append_of String.toList_ofList String.toList_ofList)
      String.toList_ofList
  have hfacts : ((Document.ofText sparseText).toOption.map fun document => decide
      (document.headers.filterMap Header.id = ["__block4"] ∧
        idsFrom 0 document.headers = ["__block1", "__block4", "__block2", "__block3"] ∧
        (document.reached Registry.standard.shape?).filterMap Header.id = [madeId 3] ∧
        unnamedOf (document.reached Registry.standard.shape?) = 3)) = some true ∧
      (parse Registry.standard.shape? sparseText).workspace.isSome = true := by
    rw [parse, Document.ofText, Json.decodeText, Json.Draft.ofText_of_toList hchars]
    decide +kernel
  obtain ⟨hmap, haccepted⟩ := hfacts
  obtain ⟨document, hoption, hdecide⟩ := Option.map_eq_some_iff.1 hmap
  obtain ⟨hgiven, hids, hreached, hunnamed⟩ := of_decide_eq_true hdecide
  have hdocument : Document.ofText sparseText = .ok document := by
    cases h : Document.ofText sparseText with
    | error cause =>
      rw [h] at hoption
      cases hoption
    | ok found =>
      rw [h] at hoption
      rw [Option.some.inj hoption]
  obtain ⟨w, hw⟩ := Option.isSome_iff_exists.1 haccepted
  obtain ⟨-, hiff, hworkspace⟩ := no_duplicate_iff Registry.standard.shape? sparseText document
    hdocument (by rw [hgiven]; exact List.nodup_singleton _)
  refine ⟨document, hdocument, hgiven, hiff.2 fun header hheader n hn hid => ?_, w, hw,
    (hworkspace w hw).1.trans hids⟩
  have hmem : madeId n ∈ [madeId 3] := hreached ▸ List.mem_filterMap.2 ⟨header, hheader, hid⟩
  have hthree := madeId_injective (List.mem_singleton.1 hmem)
  omega

/-- A block without an id, and one with the id that is made for it. -/
def clashText : String :=
  "\x7b\"blocks\":\x7b\"blocks\":[\x7b\"type\":\"set_sky_color\"\x7d," ++
  "\x7b\"type\":\"set_sky_color\",\"id\":\"__block1\"\x7d]\x7d\x7d"

/-- Only one block of `clashText` is given an id, but this id counts as used twice. -/
theorem clashText_duplicate :
    (Document.ofText clashText).toOption.map (fun document => document.headers.map Header.id) =
        some [none, some "__block1"] ∧
      (parse Registry.standard.shape? clashText).diagnostics.errors =
        [{ code := 200, block := some "__block1",
           message := "block id '__block1' is used more than once" }] := by
  have hchars : clashText.toList = _ :=
    Json.toList_append_of String.toList_ofList String.toList_ofList
  rw [parse, Document.ofText, Json.decodeText, Json.Draft.ofText_of_toList hchars]
  decide +kernel

end SceneScript
