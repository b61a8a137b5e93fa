import SceneScript.Linking
import SceneScript.Proofs.Reordering

/-!
# Documents that differ in the order of members

Two texts that differ in the order of members are the same document as far as linking can tell: the
same blocks are connected in the same places, and every field that a shape knows has the same value.
Only the reasons why something cannot be read may differ.

There is one name that has to stay where it is: an object whose first member has it is not an
object, but embeds the text of a value.

* `Json.Alike`: values that every field reads alike.
* `Header.Alike`, `Chain.Alike`, `Document.Alike`: what linking cannot tell apart.
* `Json.Rearranged`: texts that differ only in the order of members, in spaces and in spelling.
* **`Document.agree_ofText`**: rearranged texts are alike documents, or neither is a document.
-/

namespace SceneScript

open Json

/-! ## Field values -/

namespace Json

/-- Values that every field reads alike. -/
def Alike (j j' : Json) : Prop := ∀ kind : FieldKind, kind.read? j = kind.read? j'

theorem Alike.refl (j : Json) : Alike j j := fun _ => rfl

theorem Alike.trans ⦃j j' j'' : Json⦄ (h : Alike j j') (h' : Alike j' j'') : Alike j j'' :=
  fun kind => (h kind).trans (h' kind)

theorem Alike.string?_eq {j j' : Json} (h : Alike j j') : j.string? = j'.string? := by
  have hcolour (j : Json) : (FieldKind.colour "").read? j = j.string?.map .colour := by
    cases j <;> rfl
  have heq := h (.colour "")
  rw [hcolour, hcolour] at heq
  exact Option.map_injective (fun _ _ hvalue => FieldValue.colour.inj hvalue) heq

theorem alike_list (items items' : List Json) : Alike (.list items) (.list items') := by
  intro kind
  cases kind <;> rfl

/-- Of an object only the text of its id is read. -/
theorem read?_reference_object (tag : SocketTag) (initial : VariableDefault)
    (l : List (String × Json)) : (FieldKind.reference tag initial).read? (.object l) =
      ((l.reverse.lookup "id").bind string?).map .reference := by
  rw [FieldKind.read?, member?]
  cases l.reverse.lookup "id" with
  | none => rfl
  | some j => cases j <;> rfl

theorem alike_object {l l' : List (String × Json)} (h : Draft.Lookups Alike l l') :
    Alike (.object l) (.object l') := by
  intro kind
  cases kind with
  | reference tag initial =>
    have hid : (l.reverse.lookup "id").bind string? = (l'.reverse.lookup "id").bind string? := by
      generalize l.reverse.lookup "id" = a, l'.reverse.lookup "id" = b, h "id" = hrel
      cases hrel with
      | some hab => exact hab.string?_eq
      | none => rfl
    rw [read?_reference_object, read?_reference_object, hid]
  | text | number | colour | checkbox | dropdown => rfl

/-! ## Values of drafts -/

namespace Draft

variable {embed : Option (String → Except Cause Json)}

theorem Members.values_eq_mapM {room : Nat} : ∀ members : Members,
    members.values embed room = members.mapM (Draft.value embed room)
  | .closed => rfl
  | .cut _ => rfl
  | .member key value rest => by
    rw [Members.values, Members.mapM, Members.values_eq_mapM rest]

/-- An object whose first member is named otherwise embeds nothing. -/
theorem Members.value_of_free {room : Nat} {key : Spelling} (h : Free (· = embedName) key)
    (value : Draft) (rest : Members) : (Members.member key value rest).value embed room =
      ((Members.member key value rest).mapM (Draft.value embed room)).map .object := by
  rw [Members.value, Members.mapM, ← Members.values_eq_mapM]
  cases hkey : key.text with
  | error cause => rfl
  | ok name =>
    have hname : name ≠ embedName := fun heq => h name heq hkey
    simp only [bind, Except.bind, if_neg hname]
    cases value.value embed room with
    | error cause => rfl
    | ok v => cases rest.values embed room <;> rfl

theorem Members.Reordered.ending {fixed : String → Prop} {first : Bool}
    {members members' : Members} :
    members.Reordered fixed first members' → Agree Eq members.ending members'.ending := by
  intro h
  cases h with
  | closed => exact .of_eq rfl
  | cut fault => exact .of_eq rfl
  | member text skim hvalue hrest => exact .error _ _
  | swap hne hfirst hrest => exact .error _ _

mutual

/-- The values of reordered drafts are alike. -/
theorem Reordered.value {d d' : Draft} : d.Reordered (· = embedName) d' → ∀ room,
    Agree Alike (d.value embed room) (d'.value embed room)
  | .refl _, _ => .refl Alike.refl _
  | .number h, _ => by
    rw [Draft.value, Draft.value, h]
    exact .refl Alike.refl _
  | .string h _, _ => by
    rw [Draft.value, Draft.value, h]
    exact .refl Alike.refl _
  | .list h, room => by
    refine (Agree.of_eq rfl).bind ?_
    rintro room _ rfl
    exact (h.values room).bind fun _ => .ok (alike_list _ _)
  | .object h, room => by
    refine (Agree.of_eq rfl).bind ?_
    rintro room _ rfl
    exact (h.values room).2 rfl
  | .trans h h', room => .trans Alike.trans (h.value room) (h'.value room)

theorem Items.Reordered.values {items items' : Items} : items.Reordered (· = embedName) items' →
    ∀ room, Agree (fun _ _ => True) (items.values embed room) (items'.values embed room)
  | .closed, _ => .ok trivial
  | .cut _, _ => .error _ _
  | .item h h', room => (h.value room).bind fun _ => (h'.values room).bind fun _ => .ok trivial

/-- The members of reordered objects have the same names and alike values, and if they are all the
members of the objects, the objects are alike as well. -/
theorem Members.Reordered.values {first : Bool} {members members' : Members} :
    members.Reordered (· = embedName) first members' → ∀ room,
      Agree (Lookups Alike) (members.mapM (Draft.value embed room))
          (members'.mapM (Draft.value embed room)) ∧
        (first = true → Agree Alike (members.value embed room) (members'.value embed room))
  | .closed, _ => ⟨.ok fun _ => .none, fun _ => .ok (Alike.refl _)⟩
  | .cut _, _ => ⟨.error _ _, fun _ => .error _ _⟩
  | .member htext _ h h', room => by
    refine ⟨Members.agree_mapM_member htext (h.value room) (h'.values room).1, fun _ => ?_⟩
    rw [Members.value, Members.value, htext]
    refine (Agree.of_eq rfl).bind ?_
    rintro name _ rfl
    cases (if name = embedName then embed else none) with
    | none =>
      dsimp only
      rw [Members.values_eq_mapM, Members.values_eq_mapM]
      refine (h.value room).bind fun hv => (h'.values room).1.bind fun hl => ?_
      exact .ok (alike_object (hl.cons hv))
    | some embed =>
      refine h.asText.bind ?_
      rintro text _ rfl
      refine (Agree.refl Alike.refl (embed text)).bind fun hv => ?_
      exact h'.ending.bind fun _ => .ok hv
  | .swap hne hfirst h, room => by
    have hentries (value value' : Draft) :=
      Members.agree_mapM_swap Alike.refl hne value value' (h.values room).1
    refine ⟨hentries _ _, fun htrue => ?_⟩
    obtain ⟨hfree, hfree'⟩ := hfirst htrue
    rw [Members.value_of_free hfree, Members.value_of_free hfree']
    exact (hentries _ _).map fun hl => alike_object hl

end

end Draft

end Json

/-! ## Blocks -/

/-- Drafts that differ in the order of members, but not in what they embed. -/
abbrev Json.Draft.Shuffled : Draft → Draft → Prop := Draft.Reordered (· = Draft.embedName)

/-- The same draft up to the order of members, or nothing. -/
abbrev SameDraft : Option Draft → Option Draft → Prop := Option.Rel Draft.Shuffled

theorem SameDraft.refl (d : Option Draft) : SameDraft d d := rel_refl Draft.Reordered.refl d

theorem SameDraft.trans ⦃d d' d'' : Option Draft⦄ (h : SameDraft d d') (h' : SameDraft d' d'') :
    SameDraft d d'' :=
  rel_trans (R := Draft.Shuffled) (fun _ _ _ h h' => h.trans h') h h'

theorem eq_of_rel {α : Type} {a b : Option α} (h : Option.Rel Eq a b) : a = b := by
  cases h with
  | some hab => rw [hab]
  | none => rfl

theorem rel_join {α : Type} {R : α → α → Prop} {a b : Option (Option α)}
    (h : Option.Rel (Option.Rel R) a b) : Option.Rel R a.join b.join := by
  cases h with
  | some hab => exact hab
  | none => exact .none

namespace Document

/-- Connections that have one field in common. -/
structure Connection.Same (name : String) (c c' : Connection) : Prop where
  block : name = "block" → SameDraft c.block c'.block
  shadow : name = "shadow" → SameDraft c.shadow c'.shadow

theorem Connection.Same.refl (name : String) (c : Connection) : Connection.Same name c c :=
  ⟨fun _ => .refl _, fun _ => .refl _⟩

theorem separate_connectionRecord :
    connectionRecord.Separate (· = Draft.embedName) Connection.Same where
  refl := Connection.Same.refl
  trans name c c' c'' h h' :=
    ⟨fun hname => (h.block hname).trans (h'.block hname),
      fun hname => (h.shadow hname).trans (h'.shadow hname)⟩
  set {room name d d'} c c' _ hd := by
    refine (hd.optional hd.raw).bind fun hplugged => .ok ?_
    by_cases hname : name = "block"
    · rw [if_pos hname, if_pos hname]
      exact ⟨fun _ => hplugged, fun hshadow => absurd (hname.symm.trans hshadow) (by decide)⟩
    · rw [if_neg hname, if_neg hname]
      exact ⟨fun hblock => absurd hblock hname, fun _ => hplugged⟩
  keeps {room name other d c b} hname hother hne h := by
    obtain ⟨plugged, -, h⟩ := bind_eq_ok_iff.1 h
    rw [pure_eq_ok_iff] at h
    subst h
    simp only [connectionRecord, List.mem_cons, List.not_mem_nil, or_false] at hname hother
    rcases hname with rfl | rfl
    · obtain rfl := hother.resolve_left hne
      exact ⟨⟨fun h => absurd h hne, fun _ => .refl _⟩, ⟨fun h => absurd h hne, fun _ => .refl _⟩⟩
    · obtain rfl := hother.resolve_right hne
      exact ⟨⟨fun _ => .refl _, fun h => absurd h hne⟩, ⟨fun _ => .refl _, fun h => absurd h hne⟩⟩

/-- What is plugged in at a connection does not depend on the order of members. -/
theorem agree_plugged (room : Nat) {d d' : Draft} (h : d.Shuffled d') :
    Agree SameDraft (plugged room d) (plugged room d') := by
  refine (separate_connectionRecord.decode h).map fun {c c'} hc => ?_
  have hblock : SameDraft c.block c'.block := (hc "block" (by simp [connectionRecord])).block rfl
  have hshadow : SameDraft c.shadow c'.shadow :=
    (hc "shadow" (by simp [connectionRecord])).shadow rfl
  rw [Connection.target, Connection.target]
  generalize c.block = a, c'.block = b at hblock
  cases hblock with
  | none => exact hshadow
  | some hab => exact .some hab

/-- Blocks that have one field in common. -/
structure OpenBlock.Same (name : String) (b b' : OpenBlock) : Prop where
  kind : name = "type" → b.header.kind = b'.header.kind
  id : name = "id" → b.header.id = b'.header.id
  enabled : name = "enabled" → b.header.enabled = b'.header.enabled
  fields : name = "fields" → b.header.fields.Alike Json.Alike b'.header.fields
  inputs : name = "inputs" → b.inputs.Alike SameDraft b'.inputs
  next : name = "next" → SameDraft b.next b'.next

theorem OpenBlock.Same.refl (name : String) (b : OpenBlock) : OpenBlock.Same name b b :=
  ⟨fun _ => rfl, fun _ => rfl, fun _ => rfl, fun _ => .refl Json.Alike.refl _,
    fun _ => .refl SameDraft.refl _, fun _ => .refl _⟩

theorem separate_blockRecord : blockRecord.Separate (· = Draft.embedName) OpenBlock.Same where
  refl := OpenBlock.Same.refl
  trans name b b' b'' h h' :=
    ⟨fun hname => (h.kind hname).trans (h'.kind hname),
      fun hname => (h.id hname).trans (h'.id hname),
      fun hname => (h.enabled hname).trans (h'.enabled hname),
      fun hname => (h.fields hname).trans Json.Alike.trans (h'.fields hname),
      fun hname => (h.inputs hname).trans SameDraft.trans (h'.inputs hname),
      fun hname => (h.next hname).trans (h'.next hname)⟩
  set {room name d d'} b b' hname hd := by
    simp only [blockRecord]
    split
    · refine hd.asText.bind fun h => .ok ?_
      exact ⟨fun _ => h, by simp, by simp, by simp, by simp, by simp⟩
    · refine (hd.optional hd.asText).bind fun h => .ok ?_
      exact ⟨by simp, fun _ => eq_of_rel h, by simp, by simp, by simp, by simp⟩
    · refine hd.asBool.bind fun h => .ok ?_
      exact ⟨by simp, by simp, fun _ => h, by simp, by simp, by simp⟩
    · have hfields : Agree (Dict.Alike Json.Alike) (d.asDict room Draft.unfolded)
          (d'.asDict room Draft.unfolded) :=
        hd.asDict Json.Alike.refl Json.Alike.trans fun room _ _ h => h.value room
      refine hfields.bind fun h => .ok ?_
      exact ⟨by simp, by simp, by simp, fun _ => h, by simp, by simp⟩
    · have hinputs : Agree (Dict.Alike SameDraft) (d.asDict room plugged)
          (d'.asDict room plugged) :=
        hd.asDict SameDraft.refl SameDraft.trans fun room _ _ h => agree_plugged room h
      refine hinputs.bind fun h => .ok ?_
      exact ⟨by simp, by simp, by simp, by simp, fun _ => h, by simp⟩
    · next hkind hid henabled hfields hinputs =>
      refine (hd.optional (agree_plugged room hd)).bind fun h => .ok ?_
      exact ⟨fun h => (hkind h).elim, fun h => (hid h).elim, fun h => (henabled h).elim,
        fun h => (hfields h).elim, fun h => (hinputs h).elim, fun _ => rel_join h⟩
  keeps {room name other d b b'} hname hother hne h := by
    have hsame := OpenBlock.Same.refl other b
    have hskip {P : Prop} : other = name → P := fun h => absurd h hne
    simp only [blockRecord, List.mem_cons, List.not_mem_nil, or_false] at hname
    -- whichever field is set, all others are those of the block before
    rcases hname with rfl | rfl | rfl | rfl | rfl | rfl <;>
      obtain ⟨found, -, h⟩ := bind_eq_ok_iff.1 h <;> cases h
    · exact ⟨{ hsame with kind := hskip }, { hsame with kind := hskip }⟩
    · exact ⟨{ hsame with id := hskip }, { hsame with id := hskip }⟩
    · exact ⟨{ hsame with enabled := hskip }, { hsame with enabled := hskip }⟩
    · exact ⟨{ hsame with fields := hskip }, { hsame with fields := hskip }⟩
    · exact ⟨{ hsame with inputs := hskip }, { hsame with inputs := hskip }⟩
    · exact ⟨{ hsame with next := hskip }, { hsame with next := hskip }⟩

end Document

/-- Headers that make the same block, whatever its shape is. -/
structure Header.Alike (header header' : Header) : Prop where
  kind : header.kind = header'.kind
  id : header.id = header'.id
  enabled : header.enabled = header'.enabled
  fields : header.fields.Alike Json.Alike header'.fields

theorem Header.Alike.refl (header : Header) : header.Alike header :=
  ⟨rfl, rfl, rfl, .refl Json.Alike.refl _⟩

theorem Header.Alike.trans {h h' h'' : Header} (hh : h.Alike h') (hh' : h'.Alike h'') :
    h.Alike h'' :=
  ⟨hh.kind.trans hh'.kind, hh.id.trans hh'.id, hh.enabled.trans hh'.enabled,
    hh.fields.trans Json.Alike.trans hh'.fields⟩

namespace Chain

open Document

mutual

/-- Chains that say the same of their blocks, and that have the same places without a block. -/
inductive Alike : Chain → Chain → Prop
  | none : Alike none none
  | unreadable (cause cause' : Cause) : Alike (unreadable cause) (unreadable cause')
  | block {header header' : Header} {inputs inputs' : List (String × Chain)} {next next' : Chain}
      (hheader : header.Alike header') (hinputs : AlikeInputs inputs inputs')
      (hnext : Alike next next') : Alike (block header inputs next) (block header' inputs' next')

/-- Inputs of the same names with alike chains in them. -/
inductive AlikeInputs : List (String × Chain) → List (String × Chain) → Prop
  | nil : AlikeInputs [] []
  | cons {name : String} {chain chain' : Chain} {rest rest' : List (String × Chain)}
      (hchain : Alike chain chain') (hrest : AlikeInputs rest rest') :
      AlikeInputs ((name, chain) :: rest) ((name, chain') :: rest')

end

mutual

theorem Alike.refl : ∀ chain : Chain, Alike chain chain
  | none => .none
  | unreadable cause => .unreadable cause cause
  | block header inputs next => .block (.refl header) (AlikeInputs.refl inputs) (Alike.refl next)

theorem AlikeInputs.refl : ∀ inputs : List (String × Chain), AlikeInputs inputs inputs
  | [] => .nil
  | (_, chain) :: rest => .cons (Alike.refl chain) (AlikeInputs.refl rest)

end

mutual

theorem Alike.trans {c c' : Chain} : Alike c c' → ∀ {c''}, Alike c' c'' → Alike c c''
  | .none, _, h' => h'
  | .unreadable cause _, _, .unreadable _ cause'' => .unreadable cause cause''
  | .block h hi hn, _, .block h' hi' hn' => .block (h.trans h') (hi.trans hi') (hn.trans hn')

theorem AlikeInputs.trans {l l' : List (String × Chain)} :
    AlikeInputs l l' → ∀ {l''}, AlikeInputs l' l'' → AlikeInputs l l''
  | .nil, _, h' => h'
  | .cons h hl, _, .cons h' hl' => .cons (h.trans h') (hl.trans hl')

end

/-- What is connected, if something is. -/
def connectWithin (fuel : Nat) (d : Option Draft) : Chain := d.elim none (ofDraftWithin fuel)

theorem ofDraftWithin_of_ok {fuel : Nat} {d : Draft} {b : OpenBlock}
    (h : blockRecord.decode {} maxDepth d = .ok b) : ofDraftWithin (fuel + 1) d =
      block b.header (b.inputs.entries.map fun input => (input.1, connectWithin fuel input.2))
        (connectWithin fuel b.next) := by
  rw [ofDraftWithin, h]
  dsimp only
  congr 1
  · refine List.map_congr_left fun input _ => ?_
    cases input.2 <;> rfl
  · cases b.next <;> rfl

theorem ofDraftWithin_of_error {fuel : Nat} {d : Draft} {cause : Cause}
    (h : blockRecord.decode {} maxDepth d = .error cause) :
    ofDraftWithin (fuel + 1) d = unreadable cause := by
  rw [ofDraftWithin, h]

theorem Alike.isSome_eq {c c' : Chain} (h : Alike c c') : c.isSome = c'.isSome := by
  cases h <;> rfl

theorem alikeInputs_map {connect : Option Draft → Chain}
    (hconnect : ∀ d d', SameDraft d d' → Alike (connect d) (connect d'))
    {l l' : List (String × Option Draft)}
    (h : List.Forall₂ (fun e e' => e.1 = e'.1 ∧ SameDraft e.2 e'.2) l l') :
    AlikeInputs (l.map fun input => (input.1, connect input.2))
      (l'.map fun input => (input.1, connect input.2)) := by
  induction h with
  | nil => exact .nil
  | cons hentry _ ih =>
    obtain ⟨hname, hdraft⟩ := hentry
    rw [List.map_cons, List.map_cons, hname]
    exact .cons (hconnect _ _ hdraft) ih

theorem alike_ofDraftWithin : ∀ (fuel : Nat) {d d' : Draft}, d.Shuffled d' →
    Alike (ofDraftWithin fuel d) (ofDraftWithin fuel d')
  | 0, _, _, _ => .none
  | fuel + 1, d, d', h => by
    have hconnect : ∀ d d', SameDraft d d' →
        Alike (connectWithin fuel d) (connectWithin fuel d') := by
      rintro _ _ (hdraft | _)
      · exact alike_ofDraftWithin fuel hdraft
      · exact .none
    have hdecode : Agree (blockRecord.Match OpenBlock.Same) (blockRecord.decode {} maxDepth d)
        (blockRecord.decode {} maxDepth d') := separate_blockRecord.decode h
    cases hd : blockRecord.decode {} maxDepth d with
    | error cause =>
      obtain ⟨cause', hd'⟩ := (hd ▸ hdecode).exists_of_error
      rw [ofDraftWithin_of_error hd, ofDraftWithin_of_error hd']
      exact .unreadable cause cause'
    | ok b =>
      obtain ⟨b', hd', hb⟩ := (hd ▸ hdecode).exists_of_ok
      rw [ofDraftWithin_of_ok hd, ofDraftWithin_of_ok hd']
      have hheader : b.header.Alike b'.header :=
        ⟨(hb "type" (by decide)).kind rfl, (hb "id" (by decide)).id rfl,
          (hb "enabled" (by decide)).enabled rfl, (hb "fields" (by decide)).fields rfl⟩
      have hinputs := ((hb "inputs" (by decide)).inputs rfl).entries
      have hnext := (hb "next" (by decide)).next rfl
      exact .block hheader (alikeInputs_map hconnect hinputs) (hconnect _ _ hnext)

/-- Reordered drafts connect the same blocks. -/
theorem alike_ofDraft {d d' : Draft} (h : d.Shuffled d') : Alike (ofDraft d) (ofDraft d') := by
  rw [ofDraft, ofDraft, h.size_eq]
  exact alike_ofDraftWithin _ h

end Chain

/-! ## Documents -/

/-- Documents that linking cannot tell apart. -/
structure Document.Alike (document document' : Document) : Prop where
  declarations : document.declarations = document'.declarations
  chains : List.Forall₂ Chain.Alike document.chains document'.chains

/-- Declarations that have one field in common. -/
structure Declaration.Same (field : String) (v v' : Declaration) : Prop where
  id : field = "id" → v.id = v'.id
  name : field = "name" → v.name = v'.name
  type : field = "type" → v.type = v'.type

namespace Document

theorem separate_variableRecord :
    variableRecord.Separate (· = Draft.embedName) Declaration.Same where
  refl field v := ⟨fun _ => rfl, fun _ => rfl, fun _ => rfl⟩
  trans field v v' v'' h h' :=
    ⟨fun hf => (h.id hf).trans (h'.id hf), fun hf => (h.name hf).trans (h'.name hf),
      fun hf => (h.type hf).trans (h'.type hf)⟩
  set {room field d d'} v v' _ hd := by
    simp only [variableRecord]
    split
    · exact hd.asText.bind fun h => .ok ⟨fun _ => h, by simp, by simp⟩
    · exact hd.asText.bind fun h => .ok ⟨by simp, fun _ => h, by simp⟩
    · next hid hname =>
      exact hd.asText.bind fun h => .ok ⟨fun h => (hid h).elim, fun h => (hname h).elim, fun _ => h⟩
  keeps {room field other d v v'} hfield hother hne h := by
    have hsame : Declaration.Same other v v := ⟨fun _ => rfl, fun _ => rfl, fun _ => rfl⟩
    have hskip {P : Prop} : other = field → P := fun h => absurd h hne
    simp only [variableRecord, List.mem_cons, List.not_mem_nil, or_false] at hfield
    rcases hfield with rfl | rfl | rfl <;> obtain ⟨found, -, h⟩ := bind_eq_ok_iff.1 h <;> cases h
    · exact ⟨{ hsame with id := hskip }, { hsame with id := hskip }⟩
    · exact ⟨{ hsame with name := hskip }, { hsame with name := hskip }⟩
    · exact ⟨{ hsame with type := hskip }, { hsame with type := hskip }⟩

/-- A variable is read alike from reordered drafts. -/
theorem agree_variable (room : Nat) {d d' : Draft} (h : d.Shuffled d') :
    Agree Eq (variableRecord.decode {} room d) (variableRecord.decode {} room d') := by
  refine (separate_variableRecord.decode h).imp fun {v v'} _ _ hv => ?_
  have hid := (hv "id" (by decide)).id rfl
  have hname := (hv "name" (by decide)).name rfl
  have htype := (hv "type" (by decide)).type rfl
  cases v
  cases v'
  exact congr (congr (congrArg Declaration.mk hid) hname) htype

/-- The blocks of a document in common, if this is the field. -/
def SameBlocks (name : String) (blocks blocks' : List Draft) : Prop :=
  name = "blocks" → List.Forall₂ Draft.Shuffled blocks blocks'

theorem forall₂_shuffled_refl (blocks : List Draft) : List.Forall₂ Draft.Shuffled blocks blocks :=
  List.forall₂_same.2 fun d _ => .refl d

theorem separate_blocksRecord : blocksRecord.Separate (· = Draft.embedName) SameBlocks where
  refl name blocks _ := forall₂_shuffled_refl blocks
  trans name l l' l'' h h' hname :=
    forall₂_trans (R := Draft.Shuffled) (fun _ _ _ h h' => h.trans h') (h hname) (h' hname)
  set {room name d d'} l l' _ hd := by
    simp only [blocksRecord]
    split
    · have hblocks : Agree (List.Forall₂ Draft.Shuffled) (d.asList room fun _ => Draft.raw)
          (d'.asList room fun _ => Draft.raw) :=
        hd.asList .refl (fun _ _ _ h h' => h.trans h') fun _ _ _ h => h.raw
      exact hblocks.imp fun _ _ h _ => h
    · next hname => exact hd.asWord32.bind fun _ => .ok fun h => (hname h).elim
  keeps {room name other d l l'} hname hother hne h := by
    simp only [blocksRecord, List.mem_cons, List.not_mem_nil, or_false] at hname
    rcases hname with rfl | rfl
    · obtain ⟨_, -, h⟩ := bind_eq_ok_iff.1 h
      cases h
      exact ⟨fun _ => forall₂_shuffled_refl l, fun _ => forall₂_shuffled_refl l⟩
    · exact ⟨fun h => absurd h hne, fun h => absurd h hne⟩

theorem alike_chains {blocks blocks' : Option (List Draft)}
    (h : Option.Rel (blocksRecord.Match SameBlocks) blocks blocks') :
    List.Forall₂ Chain.Alike ((blocks.getD []).map Chain.ofDraft)
      ((blocks'.getD []).map Chain.ofDraft) := by
  rw [List.forall₂_map_left_iff, List.forall₂_map_right_iff]
  cases h with
  | none => exact .nil
  | some hblocks =>
    exact (hblocks "blocks" (by decide) rfl).imp fun _ _ hd => Chain.alike_ofDraft hd

/-- Documents that have one field in common. -/
structure Same (name : String) (d d' : Document) : Prop where
  chains : name = "blocks" → List.Forall₂ Chain.Alike d.chains d'.chains
  declarations : name = "variables" → d.declarations = d'.declarations

theorem Same.refl (name : String) (d : Document) : Same name d d :=
  ⟨fun _ => List.forall₂_same.2 fun chain _ => .refl chain, fun _ => rfl⟩

theorem separate_record : record.Separate (· = Draft.embedName) Same where
  refl := Same.refl
  trans name d d' d'' h h' :=
    ⟨fun hname => forall₂_trans (fun _ _ _ h h' => h.trans h') (h.chains hname) (h'.chains hname),
      fun hname => (h.declarations hname).trans (h'.declarations hname)⟩
  set {room name d d'} v v' _ hd := by
    simp only [record]
    split
    · refine (hd.optional (separate_blocksRecord.decode hd)).bind fun h => .ok ⟨fun _ => ?_, by simp⟩
      exact alike_chains h
    · next hname =>
      have hvariables : Agree (List.Forall₂ Eq) (d.asList room (variableRecord.decode {}))
          (d'.asList room (variableRecord.decode {})) :=
        hd.asList (fun _ => rfl) (fun _ _ _ h h' => h.trans h') fun room _ _ h =>
          agree_variable room h
      exact hvariables.bind fun h =>
        .ok ⟨fun h => (hname h).elim, fun _ => List.forall₂_eq_eq_eq ▸ h⟩
  keeps {room name other d v v'} hname hother hne h := by
    have hsame := Same.refl other v
    have hskip {P : Prop} : other = name → P := fun h => absurd h hne
    simp only [record, List.mem_cons, List.not_mem_nil, or_false] at hname
    rcases hname with rfl | rfl <;> obtain ⟨found, -, h⟩ := bind_eq_ok_iff.1 h <;> cases h
    · exact ⟨{ hsame with chains := hskip }, { hsame with chains := hskip }⟩
    · exact ⟨{ hsame with declarations := hskip }, { hsame with declarations := hskip }⟩

end Document

/-- Texts that differ only in the order of members, in spaces and in how strings and numbers are
spelled. Members that are named in `fixed` stay where they are if they come first, and none of them
comes first if it did not before. -/
def Json.Rearranged (fixed : String → Prop) (text text' : String) : Prop :=
  (Draft.ofText text).1.Reordered fixed (Draft.ofText text').1 ∧
    (Draft.ofText text).2 = (Draft.ofText text').2

/-- Rearranged texts are the same document as far as linking can tell, or both are none. -/
theorem Document.agree_ofText {text text' : String}
    (h : Json.Rearranged (· = Draft.embedName) text text') :
    Agree Document.Alike (Document.ofText text) (Document.ofText text') := by
  rw [Document.ofText, Document.ofText, decodeText, decodeText]
  rw [Json.Rearranged] at h
  generalize Draft.ofText text = p, Draft.ofText text' = p' at h
  obtain ⟨draft, trailing⟩ := p
  obtain ⟨draft', trailing'⟩ := p'
  obtain ⟨hdraft, rfl⟩ := h
  refine (separate_record.decode hdraft).bind fun {d d'} hd => ?_
  split_ifs
  · exact .error _ _
  · exact .ok ⟨(hd "variables" (by decide)).declarations rfl, (hd "blocks" (by decide)).chains rfl⟩

end SceneScript
