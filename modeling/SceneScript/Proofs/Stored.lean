import SceneScript.Proofs.Drafts

/-!
# What a text stores

A draft says by itself which blocks it connects: at a connection it is the block that is connected
there, and the shadow if there is no block. A chain is stored in a draft if it says the same as the
draft and the drafts that are connected with it, and a document is stored in a text if its chains
and declarations are stored in the top-level blocks and the variables of the text. The document of a
text is the only one that is stored there.

Blocks are read with a bound on how deep their connections go. A connected draft is smaller than the
draft of its block, so the bound is never reached.

* `Draft.effective?`, `Draft.input?`, `Draft.below?`: the blocks that a draft connects.
* `Draft.tops`, `Draft.declared`: the top-level blocks and the variables of a document.
* `Chain.Stored`, `Document.StoredIn`: chains and documents that say just what is written.
* `Chain.stored_ofDraft`: the chain of a draft is stored there.
* **`Document.storedIn_iff`**: the document of a text is the one that is stored there.
-/

namespace SceneScript

namespace Json.Draft

/-! ## Connected blocks -/

/-- The block that is in effect at a connection: the one that is connected there, or else the
shadow. -/
def effective? (connection : Draft) : Option Draft :=
  (connection.present? Document.connectionRecord.fields "block").or
    (connection.present? Document.connectionRecord.fields "shadow")

/-- The connection that a block has under the name of an input. -/
def connection? (block : Draft) (name : String) : Option Draft :=
  (block.part? Document.blockRecord.fields "inputs").bind (member? name)

/-- The block in an input of a block. -/
def input? (block : Draft) (name : String) : Option Draft :=
  (block.connection? name).bind effective?

/-- The block below a block. -/
def below? (block : Draft) : Option Draft :=
  (block.present? Document.blockRecord.fields "next").bind effective?

/-- The top-level blocks of a document. -/
def tops (document : Draft) : List Draft :=
  ((document.present? Document.record.fields "blocks").bind
    (part? Document.blocksRecord.fields "blocks")).elim [] items

/-- The variables of a document. -/
def declared (document : Draft) : List Draft :=
  (document.part? Document.record.fields "variables").elim [] items

variable {draft part : Draft} {name : String}

theorem size_effective? (h : draft.effective? = some part) : part.size < draft.size := by
  rcases Option.or_eq_some_iff.1 h with h | ⟨-, h⟩
  · exact size_present? h
  · exact size_present? h

theorem size_input? (h : draft.input? name = some part) : part.size < draft.size := by
  obtain ⟨connection, hconnection, h⟩ := Option.bind_eq_some_iff.1 h
  obtain ⟨inputs, hinputs, hconnection⟩ := Option.bind_eq_some_iff.1 hconnection
  exact Nat.lt_trans (size_effective? h)
    (Nat.lt_trans (size_member? hconnection) (size_part? hinputs))

theorem size_below? (h : draft.below? = some part) : part.size < draft.size := by
  obtain ⟨connection, hconnection, h⟩ := Option.bind_eq_some_iff.1 h
  exact Nat.lt_trans (size_effective? h) (size_present? hconnection)

end Json.Draft

namespace Document

open Json

/-! ## Reading blocks -/

theorem field_block : connectionRecord.Field "block" Connection.block
    fun _ => Draft.optional Draft.raw :=
  .ofPut (fun c block => { c with block }) (by decide) (by decide) (fun _ => rfl) (fun _ => rfl)
    fun _ hne h => by
      obtain ⟨found, -, h⟩ := bind_eq_ok_iff.1 h
      rw [if_neg hne] at h
      cases h
      rfl

theorem field_shadow : connectionRecord.Field "shadow" Connection.shadow
    fun _ => Draft.optional Draft.raw :=
  .ofPut (fun c shadow => { c with shadow }) (by decide) (by decide) (fun _ => rfl) (fun _ => rfl)
    fun hmem hne h => by
      obtain rfl : _ = "block" := by simpa [connectionRecord, hne] using hmem
      obtain ⟨found, -, h⟩ := bind_eq_ok_iff.1 h
      cases h
      rfl

/-- What is plugged in at a connection is the block that is in effect there. -/
theorem plugged_eq {room : Nat} {connection : Draft} {target : Option Draft}
    (h : plugged room connection = .ok target) : target = connection.effective? := by
  obtain ⟨c, hc, rfl⟩ := map_eq_ok_iff.1 h
  obtain ⟨_, -, hblock⟩ := Record.decode_field field_block hc
  obtain ⟨_, -, hshadow⟩ := Record.decode_field field_shadow hc
  rw [Connection.target, Option.orElse_eq_orElse, Option.orElse_eq_or,
    Draft.present?_of_raw hblock, Draft.present?_of_raw hshadow]
  rfl

/-- Setting one field of a block leaves the others as they are. -/
theorem set_blockRecord_frame {room : Nat} {name : String} {draft : Draft} {b b' : OpenBlock}
    (hmem : name ∈ blockRecord.fields) (h : blockRecord.set room name draft b = .ok b') :
    (name ≠ "type" → b'.header.kind = b.header.kind) ∧
      (name ≠ "id" → b'.header.id = b.header.id) ∧
      (name ≠ "enabled" → b'.header.enabled = b.header.enabled) ∧
      (name ≠ "fields" → b'.header.fields = b.header.fields) ∧
      (name ≠ "inputs" → b'.inputs = b.inputs) ∧ (name ≠ "next" → b'.next = b.next) := by
  simp only [blockRecord] at hmem h
  split at h <;> obtain ⟨_, -, h⟩ := bind_eq_ok_iff.1 h <;> cases h <;> simp_all

theorem field_type : blockRecord.Field "type" (·.header.kind) fun _ => Draft.asString :=
  .ofPut (fun b kind => { b with header.kind := kind }) (by decide) (by decide) (fun _ => rfl)
    (fun _ => rfl) fun hmem hne h => (set_blockRecord_frame hmem h).1 hne

theorem field_id : blockRecord.Field "id" (·.header.id) fun _ => Draft.optional Draft.asString :=
  .ofPut (fun b id => { b with header.id := id }) (by decide) (by decide) (fun _ => rfl)
    (fun _ => rfl) fun hmem hne h => (set_blockRecord_frame hmem h).2.1 hne

theorem field_enabled : blockRecord.Field "enabled" (·.header.enabled) fun _ => Draft.asBool :=
  .ofPut (fun b enabled => { b with header.enabled := enabled }) (by decide) (by decide)
    (fun _ => rfl) (fun _ => rfl) fun hmem hne h => (set_blockRecord_frame hmem h).2.2.1 hne

theorem field_fields : blockRecord.Field "fields" (·.header.fields)
    fun room => Draft.asDict room Draft.unfolded :=
  .ofPut (fun b fields => { b with header.fields := fields }) (by decide) (by decide)
    (fun _ => rfl) (fun _ => rfl) fun hmem hne h => (set_blockRecord_frame hmem h).2.2.2.1 hne

theorem field_inputs : blockRecord.Field "inputs" OpenBlock.inputs
    fun room => Draft.asDict room plugged :=
  .ofPut (fun b inputs => { b with inputs }) (by decide) (by decide) (fun _ => rfl)
    (fun _ => rfl) fun hmem hne h => (set_blockRecord_frame hmem h).2.2.2.2.1 hne

theorem field_next : blockRecord.Field "next" OpenBlock.next
    fun room draft => (draft.optional (plugged room)).map Option.join where
  nodup := by decide
  mem := by decide
  set h := by
    obtain ⟨found, hfound, h⟩ := bind_eq_ok_iff.1 h
    cases h
    exact map_eq_ok_iff.2 ⟨found, hfound, rfl⟩
  other hmem hne h := (set_blockRecord_frame hmem h).2.2.2.2.2 hne

/-- The inputs of a block have the blocks that are in effect at their connections. -/
theorem map_connection? {room : Nat} {draft : Draft} {b : OpenBlock}
    (h : blockRecord.decode {} room draft = .ok b) (name : String) :
    (draft.connection? name).map Draft.effective? = b.inputs.get? name := by
  obtain ⟨room', -, hread⟩ := Record.decode_field field_inputs h
  rw [Draft.connection?]
  obtain ⟨hinputs, hempty⟩ | ⟨inputs, hinputs, hread⟩ := Draft.readPart_cases hread
  · rw [hinputs, hempty]
    rfl
  · obtain ⟨room', hmembers⟩ := Draft.map_member?_of_asDict hread
    have hmember := hmembers name
    rw [hinputs, Option.bind_some]
    cases hconnection : inputs.member? name with
    | none =>
      rw [hconnection] at hmember
      exact (Option.map_eq_none_iff.1 hmember.symm).symm
    | some connection =>
      rw [hconnection] at hmember
      obtain ⟨target, htarget, hplugged⟩ := Option.map_eq_some_iff.1 hmember.symm
      rw [htarget, plugged_eq hplugged.symm, Option.map_some]

/-- Below a block is the block that is in effect there. -/
theorem next_eq_below? {room : Nat} {draft : Draft} {b : OpenBlock}
    (h : blockRecord.decode {} room draft = .ok b) : b.next = draft.below? := by
  obtain ⟨room', -, hread⟩ := Record.decode_field field_next h
  obtain ⟨found, hfound, hjoin⟩ := map_eq_ok_iff.1
    ((Draft.readPart_map Option.join none).symm.trans hread)
  rw [← hjoin, Draft.below?]
  obtain ⟨hnext, rfl⟩ | ⟨connection, target, hnext, htarget, rfl⟩ := Draft.present?_cases hfound
  · rw [hnext]
    rfl
  · rw [hnext, plugged_eq htarget]
    rfl

end Document

open Json Document in
/-- A header says what is written in the draft of a block. A block has a type, so the kind is never
the default. -/
structure Header.StoredIn (header : Header) (draft : Draft) : Prop where
  kind : draft.readPart blockRecord.fields "type" "" Draft.asString = .ok header.kind
  id : draft.readPart blockRecord.fields "id" none (Draft.optional Draft.asString) = .ok header.id
  enabled : draft.readPart blockRecord.fields "enabled" true Draft.asBool = .ok header.enabled
  fields : draft.readPart blockRecord.fields "fields" .empty
    (Draft.asDict (maxDepth - 1) Draft.unfolded) = .ok header.fields

theorem Header.StoredIn.eq {a b : Header} {draft : Json.Draft} (ha : a.StoredIn draft)
    (hb : b.StoredIn draft) : a = b := by
  have hkind := Except.ok.inj (ha.kind.symm.trans hb.kind)
  have hid := Except.ok.inj (ha.id.symm.trans hb.id)
  have henabled := Except.ok.inj (ha.enabled.symm.trans hb.enabled)
  have hfields := Except.ok.inj (ha.fields.symm.trans hb.fields)
  cases a
  cases b
  subst hkind hid henabled hfields
  rfl

namespace Chain

open Json Document

/-- A chain says just what a draft says: it is unreadable if the draft is no block, and else it has
the header of the block, an input for each connection in the order of their names, and in each input
and below the block what is in effect there. -/
inductive Stored : Option Draft → Chain → Prop
  | nothing : Stored .none none
  | unreadable {draft cause} (h : blockRecord.decode {} maxDepth draft = .error cause) :
    Stored (some draft) (unreadable cause)
  | block {draft header inputs next} (decodes : (blockRecord.decode {} maxDepth draft).isOk)
    (header_stored : header.StoredIn draft)
    (sorted : inputs.Pairwise fun a b => a.1 < b.1)
    (names : ∀ name, name ∈ inputs.map Prod.fst ↔ (draft.connection? name).isSome)
    (inputs_stored : ∀ input ∈ inputs, Stored (draft.input? input.1) input.2)
    (next_stored : Stored draft.below? next) : Stored (some draft) (block header inputs next)

theorem header_storedIn {draft : Draft} {b : OpenBlock}
    (h : blockRecord.decode {} maxDepth draft = .ok b) : b.header.StoredIn draft := by
  obtain ⟨_, -, hkind⟩ := Record.decode_field field_type h
  obtain ⟨_, -, hid⟩ := Record.decode_field field_id h
  obtain ⟨_, -, henabled⟩ := Record.decode_field field_enabled h
  obtain ⟨room, hroom, hfields⟩ := Record.decode_field field_fields h
  obtain rfl : maxDepth - 1 = room := Except.ok.inj hroom
  exact ⟨hkind, hid, henabled, hfields⟩

theorem stored_ofDraftWithin : ∀ (fuel : Nat) (draft : Draft), draft.size ≤ fuel →
    Stored (some draft) (ofDraftWithin fuel draft)
  | 0, draft, hsize => absurd draft.size_pos (by omega)
  | fuel + 1, draft, hsize => by
    rw [ofDraftWithin]
    cases h : blockRecord.decode {} maxDepth draft with
    | error cause => exact .unreadable h
    | ok b =>
      have hinputs := map_connection? h
      have hnext := next_eq_below? h
      -- the same for an input and for what is below: the connected draft is smaller
      have hconnect : ∀ (connected : Option Draft) (chain : Chain),
          (connected = .none → chain = none) →
          (∀ target, connected = some target →
            chain = ofDraftWithin fuel target ∧ target.size < draft.size) →
          Stored connected chain := by
        rintro (_ | target) chain hnone hsome
        · rw [hnone rfl]
          exact .nothing
        · obtain ⟨rfl, hlt⟩ := hsome target rfl
          exact stored_ofDraftWithin fuel target (by omega)
      refine .block (by rw [h]; rfl) (header_storedIn h) ?_ ?_ ?_
        (hconnect _ _ (fun hnone => by rw [hnext, hnone]) fun target hsome =>
          ⟨by rw [hnext, hsome], Draft.size_below? hsome⟩)
      · exact List.pairwise_map.2 b.inputs.sorted
      · intro name
        rw [List.map_map, ← Option.isSome_map, hinputs, Dict.isSome_get?_iff]
        rfl
      · simp only [List.mem_map]
        rintro _ ⟨entry, hentry, rfl⟩
        have hinput : entry.2 = draft.input? entry.1 := by
          have hget := Dict.get?_eq_some_iff.2 hentry
          rw [← hinputs entry.1] at hget
          obtain ⟨connection, hconnection, heffective⟩ := Option.map_eq_some_iff.1 hget
          rw [Draft.input?, hconnection, Option.bind_some, heffective]
        exact hconnect _ _ (fun hnone => by simp only [hinput, hnone]) fun target hsome =>
          ⟨by simp only [hinput, hsome], Draft.size_input? hsome⟩

/-- **Nothing is cut off**: the chain of a draft says just what the draft says. -/
theorem stored_ofDraft (draft : Draft) : Stored (some draft) (ofDraft draft) :=
  stored_ofDraftWithin draft.size draft (Nat.le_refl _)

/-- A draft has only one chain. -/
theorem Stored.eq {connected : Option Draft} {a b : Chain} (ha : Stored connected a) :
    Stored connected b → a = b := by
  induction ha generalizing b with
  | nothing =>
    rintro ⟨⟩
    rfl
  | unreadable h =>
    rintro (_ | h' | decodes)
    · rw [Except.error.inj (h.symm.trans h')]
    · rw [h] at decodes
      cases decodes
  | @block draft header inputs next decodes header_stored sorted names _ _ ihinputs ihnext =>
    rintro (_ | h | ⟨-, header_stored', sorted', names', inputs_stored', next_stored'⟩)
    · rw [h] at decodes
      cases decodes
    rw [header_stored.eq header_stored', ihnext next_stored']
    congr 1
    refine Dict.eq_of_sorted_of_mem_iff sorted sorted' fun input =>
      ⟨fun hinput => ?_, fun hinput => ?_⟩
    · obtain ⟨input', hinput', hname⟩ := List.mem_map.1
        ((names' input.1).2 ((names input.1).1 (List.mem_map_of_mem hinput)))
      have hchain := ihinputs input hinput (hname ▸ inputs_stored' input' hinput')
      rwa [show input = input' from Prod.ext hname.symm hchain]
    · obtain ⟨input', hinput', hname⟩ := List.mem_map.1
        ((names input.1).2 ((names' input.1).1 (List.mem_map_of_mem hinput)))
      have hchain := ihinputs input' hinput' (hname ▸ inputs_stored' input hinput)
      rwa [show input = input' from Prod.ext hname.symm hchain.symm]

end Chain

/-! ## Documents -/

open Json Document in
/-- A declaration says what is written in the draft of a variable. A variable has an id and a name,
so these are never the default. -/
structure Declaration.StoredIn (v : Declaration) (draft : Draft) : Prop where
  id : draft.readPart variableRecord.fields "id" "" Draft.asString = .ok v.id
  name : draft.readPart variableRecord.fields "name" "" Draft.asString = .ok v.name
  type : draft.readPart variableRecord.fields "type" "" Draft.asString = .ok v.type

theorem Declaration.StoredIn.eq {a b : Declaration} {draft : Json.Draft} (ha : a.StoredIn draft)
    (hb : b.StoredIn draft) : a = b := by
  have hid := Except.ok.inj (ha.id.symm.trans hb.id)
  have hname := Except.ok.inj (ha.name.symm.trans hb.name)
  have htype := Except.ok.inj (ha.type.symm.trans hb.type)
  cases a
  cases b
  subst hid hname htype
  rfl

namespace Document

open Json

/-- A document says just what a text says: the text is one of a document, each declaration is what
one of the variables says, and each chain what one of the top-level blocks says. -/
structure StoredIn (document : Document) (text : String) : Prop where
  decodes : (Document.ofText text).isOk
  declarations : List.Forall₂ (fun draft v => Declaration.StoredIn v draft)
    (Draft.ofText text).1.declared document.declarations
  chains : List.Forall₂ (fun draft chain => Chain.Stored (some draft) chain)
    (Draft.ofText text).1.tops document.chains

theorem set_variableRecord_frame {room : Nat} {name : String} {draft : Draft} {v v' : Declaration}
    (hmem : name ∈ variableRecord.fields) (h : variableRecord.set room name draft v = .ok v') :
    (name ≠ "id" → v'.id = v.id) ∧ (name ≠ "name" → v'.name = v.name) ∧
      (name ≠ "type" → v'.type = v.type) := by
  simp only [variableRecord] at hmem h
  split at h <;> obtain ⟨_, -, h⟩ := bind_eq_ok_iff.1 h <;> cases h <;> simp_all

theorem storedIn_of_variableRecord {room : Nat} {draft : Draft} {v : Declaration}
    (h : variableRecord.decode {} room draft = .ok v) : v.StoredIn draft := by
  have field_id : variableRecord.Field "id" Declaration.id fun _ => Draft.asString :=
    .ofPut (fun v id => { v with id }) (by decide) (by decide) (fun _ => rfl) (fun _ => rfl)
      fun hmem hne h => (set_variableRecord_frame hmem h).1 hne
  have field_name : variableRecord.Field "name" Declaration.name fun _ => Draft.asString :=
    .ofPut (fun v name => { v with name }) (by decide) (by decide) (fun _ => rfl) (fun _ => rfl)
      fun hmem hne h => (set_variableRecord_frame hmem h).2.1 hne
  have field_type : variableRecord.Field "type" Declaration.type fun _ => Draft.asString :=
    .ofPut (fun v type => { v with type }) (by decide) (by decide) (fun _ => rfl) (fun _ => rfl)
      fun hmem hne h => (set_variableRecord_frame hmem h).2.2 hne
  obtain ⟨_, -, hid⟩ := Record.decode_field field_id h
  obtain ⟨_, -, hname⟩ := Record.decode_field field_name h
  obtain ⟨_, -, htype⟩ := Record.decode_field field_type h
  exact ⟨hid, hname, htype⟩

theorem field_blocks : blocksRecord.Field "blocks" id
    fun room => Draft.asList room fun _ => Draft.raw where
  nodup := by decide
  mem := by decide
  set h := h
  other hmem hne h := by
    obtain rfl : _ = "languageVersion" := by simpa [blocksRecord, hne] using hmem
    obtain ⟨_, -, h⟩ := bind_eq_ok_iff.1 h
    cases h
    rfl

theorem field_chains : record.Field "blocks" Document.chains fun room draft =>
    (draft.optional (blocksRecord.decode [] room)).map fun blocks =>
      (blocks.getD []).map Chain.ofDraft where
  nodup := by decide
  mem := by decide
  set h := by
    obtain ⟨blocks, hblocks, h⟩ := bind_eq_ok_iff.1 h
    cases h
    exact map_eq_ok_iff.2 ⟨blocks, hblocks, rfl⟩
  other hmem hne h := by
    obtain rfl : _ = "variables" := by simpa [record, hne] using hmem
    obtain ⟨_, -, h⟩ := bind_eq_ok_iff.1 h
    cases h
    rfl

theorem field_declarations : record.Field "variables" Document.declarations fun room =>
    Draft.asList room (variableRecord.decode {}) :=
  .ofPut (fun d declarations => { d with declarations }) (by decide) (by decide) (fun _ => rfl)
    (fun _ => rfl) fun hmem hne h => by
      obtain rfl : _ = "blocks" := by simpa [record, hne] using hmem
      obtain ⟨_, -, h⟩ := bind_eq_ok_iff.1 h
      cases h
      rfl

section OfText

variable {text : String} {document : Document} (h : Document.ofText text = .ok document)

include h

theorem chains_eq : document.chains = (Draft.ofText text).1.tops.map Chain.ofDraft := by
  obtain ⟨room, -, hread⟩ := Record.decode_field field_chains (read_of_decodeText h)
  obtain ⟨blocks, hblocks, hchains⟩ := map_eq_ok_iff.1
    ((Draft.readPart_map (fun blocks : Option (List Draft) =>
      (blocks.getD []).map Chain.ofDraft) none).symm.trans hread)
  rw [← hchains, Draft.tops]
  obtain ⟨hpart, rfl⟩ | ⟨part, drafts, hpart, hdrafts, rfl⟩ := Draft.present?_cases hblocks
  · rw [hpart]
    rfl
  · obtain ⟨room', -, hlist⟩ := Record.decode_field field_blocks hdrafts
    rw [hpart, Option.bind_some, Option.getD_some]
    obtain ⟨hitems, hempty⟩ | ⟨items, hitems, hlist⟩ := Draft.readPart_cases hlist
    · obtain rfl : drafts = [] := hempty
      rw [hitems]
      rfl
    · obtain ⟨_, hraw⟩ := Draft.forall₂_items_of_asList hlist
      have hkept : List.Forall₂ Eq items.items drafts := hraw.imp fun part kept h => by
        obtain ⟨_, -, h⟩ := map_eq_ok_iff.1 h
        exact h
      rw [List.forall₂_eq_eq_eq] at hkept
      rw [hitems, Option.elim_some, hkept]

theorem forall₂_declarations : List.Forall₂ (fun draft v => Declaration.StoredIn v draft)
    (Draft.ofText text).1.declared document.declarations := by
  obtain ⟨room, -, hread⟩ := Record.decode_field field_declarations (read_of_decodeText h)
  rw [Draft.declared]
  obtain ⟨hpart, hempty⟩ | ⟨part, hpart, hlist⟩ := Draft.readPart_cases hread
  · rw [hpart, hempty]
    exact .nil
  · obtain ⟨_, hvariables⟩ := Draft.forall₂_items_of_asList hlist
    rw [hpart]
    exact hvariables.imp fun _ _ => storedIn_of_variableRecord

theorem storedIn_of_ofText : document.StoredIn text := by
  refine ⟨by rw [h]; rfl, forall₂_declarations h, ?_⟩
  rw [chains_eq h, List.forall₂_map_right_iff, List.forall₂_same]
  exact fun draft _ => Chain.stored_ofDraft draft

/-- Every chain of a document is stored in a draft. -/
theorem stored_of_ofText : ∀ chain ∈ document.chains, ∃ draft, Chain.Stored (some draft) chain := by
  rw [chains_eq h]
  intro chain hchain
  obtain ⟨draft, -, rfl⟩ := List.mem_map.1 hchain
  exact ⟨draft, Chain.stored_ofDraft draft⟩

end OfText

/-- **The document of a text is the one that is stored there.** -/
theorem storedIn_iff {document : Document} {text : String} :
    document.StoredIn text ↔ Document.ofText text = .ok document := by
  refine ⟨fun h => ?_, storedIn_of_ofText⟩
  cases hread : Document.ofText text with
  | error cause =>
    have hdecodes := h.decodes
    rw [hread] at hdecodes
    cases hdecodes
  | ok read =>
    have hstored := storedIn_of_ofText hread
    have hdeclarations : read.declarations = document.declarations :=
      List.right_unique_forall₂' (fun _ _ _ ha hb => ha.eq hb) hstored.declarations h.declarations
    have hchains : read.chains = document.chains :=
      List.right_unique_forall₂' (fun _ _ _ ha hb => ha.eq hb) hstored.chains h.chains
    cases read
    cases document
    subst hdeclarations hchains
    rfl

end Document

end SceneScript
