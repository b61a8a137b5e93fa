import SceneScript.Document
import SceneScript.Proofs.Dict

/-!
# What is read from a draft

A structure is given as an object or as the list of its fields, so a draft says by itself what
stands for a field: the member of its name or the item at its place. The reader walks through the
draft once, from left to right, and sets one field after another. What it finds is just that.

* `Draft.part?`, `Draft.present?`: what stands in a draft for a field of a structure.
* `Record.Field`: a field of a structure, by what it sets and leaves alone.
* **`Record.decode_field`**: a field holds what is read from its part.
* `Draft.map_member?_of_asDict`, `Draft.forall₂_items_of_asList`: a dictionary holds what is read
  from the members of an object, and a list what is read from the items.
-/

namespace SceneScript

namespace Json

/-- Two steps succeed if the first one does and the second one does after it. -/
theorem bind_eq_ok_iff {α β : Type} {x : Except Cause α} {f : α → Except Cause β} {b : β} :
    (x >>= f) = .ok b ↔ ∃ a, x = .ok a ∧ f a = .ok b := by
  cases x <;> simp [bind, Except.bind]

theorem map_eq_ok_iff {α β : Type} {x : Except Cause α} {f : α → β} {b : β} :
    x.map f = .ok b ↔ ∃ a, x = .ok a ∧ f a = b := by
  cases x <;> simp [Except.map]

theorem pure_eq_ok_iff {α : Type} {a b : α} : (pure a : Except Cause α) = .ok b ↔ a = b := by
  simp [pure, Except.pure]

theorem read_of_decodeText {α : Type} {read : Draft → Except Cause α} {text : String} {a : α}
    (h : decodeText read text = .ok a) : read (Draft.ofText text).1 = .ok a := by
  rw [decodeText] at h
  cases hdraft : Draft.ofText text with
  | mk draft trailing =>
    rw [hdraft] at h
    obtain ⟨b, hb, h⟩ := bind_eq_ok_iff.1 h
    cases trailing <;> cases h
    exact hb

theorem toList_append_of {s t : String} {l m : List Char} (hs : s.toList = l) (ht : t.toList = m) :
    (s ++ t).toList = l ++ m := by
  rw [String.toList_append, hs, ht]

/-- The draft of a text from its characters. For a literal these come from `String.toList_ofList`,
and then the text need not be decoded again when it is evaluated. -/
theorem Draft.ofText_of_toList {text : String} {l : List Char} (h : text.toList = l) :
    ofText text = ((readValue (3 * l.length + 3) l).1,
      !(skipSpaces (readValue (3 * l.length + 3) l).2).isEmpty) := by
  subst h
  rfl

namespace Draft

/-! ## The parts of a draft -/

/-- What the last member of a name holds. -/
def Members.last? (name : String) : Members → Option Draft
  | .member key value rest =>
    (rest.last? name).or (if key.text.toOption = some name then some value else none)
  | _ => none

def Items.get? : Nat → Items → Option Draft
  | 0, .item head _ => some head
  | n + 1, .item _ rest => rest.get? n
  | _, _ => none

def Items.toList : Items → List Draft
  | .item head rest => head :: rest.toList
  | _ => []

/-- The items of a list. -/
def items : Draft → List Draft
  | .list items => items.toList
  | _ => []

/-- What an object holds under a name. -/
def member? (name : String) : Draft → Option Draft
  | .object members => members.last? name
  | _ => none

/-- What stands in a draft for one of the fields of a structure: an object has it under its name, a
list at its place. -/
def part? (fields : List String) (name : String) : Draft → Option Draft
  | .object members => members.last? name
  | .list items => items.get? (fields.idxOf name)
  | _ => none

/-- What stands in a draft for a field, unless it is `null`. -/
def present? (fields : List String) (name : String) (draft : Draft) : Option Draft :=
  (draft.part? fields name).filter (· ≠ .null)

/-- What is read from the part for a field, or `default` if there is no such part. -/
def readPart {α : Type} (fields : List String) (name : String) (default : α)
    (read : Draft → Except Cause α) (draft : Draft) : Except Cause α :=
  (draft.part? fields name).elim (.ok default) read

/-! ## Parts are smaller -/

theorem size_pos (draft : Draft) : 0 < draft.size := by
  cases draft <;> simp [Draft.size]

theorem Members.size_last? {name : String} {part : Draft} : ∀ {members : Members},
    members.last? name = some part → part.size ≤ members.size
  | .closed, h | .cut _, h => by simp [Members.last?] at h
  | .member key value rest, h => by
    rw [Members.size]
    rcases Option.or_eq_some_iff.1 h with h | ⟨-, h⟩
    · have := size_last? h
      omega
    · obtain ⟨-, rfl⟩ : _ ∧ value = part := by simpa using h
      omega

theorem Items.size_get? {part : Draft} : ∀ {n : Nat} {items : Items},
    items.get? n = some part → part.size ≤ items.size
  | _, .closed, h | _, .cut _, h => by simp [Items.get?] at h
  | 0, .item head rest, h => by
    obtain rfl : head = part := by simpa [Items.get?] using h
    rw [Items.size]
    omega
  | n + 1, .item head rest, h => by
    have hrest : rest.get? n = some part := h
    have := Items.size_get? hrest
    rw [Items.size]
    omega

variable {draft part : Draft} {fields : List String} {name : String}

theorem size_part? (h : draft.part? fields name = some part) : part.size < draft.size := by
  cases draft with
  | object members => exact Nat.lt_succ_of_le (Members.size_last? h)
  | list items => exact Nat.lt_succ_of_le (Items.size_get? h)
  | null | bool | number | string | broken => simp [part?] at h

theorem size_member? (h : draft.member? name = some part) : part.size < draft.size := by
  cases draft with
  | object members => exact Nat.lt_succ_of_le (Members.size_last? h)
  | null | bool | number | string | list | broken => simp [member?] at h

theorem size_present? (h : draft.present? fields name = some part) : part.size < draft.size :=
  size_part? (Option.filter_eq_some_iff.1 h).1

end Draft

/-! ## Reading structures -/

namespace Record

variable {α β : Type} {record : Record α} {name : String} {view : α → β}
  {read : Nat → Draft → Except Cause β}

/-- A field of a structure: setting it sets `view` to what is read from the draft, and setting
another field leaves `view` as it is. -/
structure Field (record : Record α) (name : String) (view : α → β)
    (read : Nat → Draft → Except Cause β) : Prop where
  nodup : record.fields.Nodup
  mem : name ∈ record.fields
  set {room : Nat} {draft : Draft} {a a' : α} (h : record.set room name draft a = .ok a') :
    read room draft = .ok (view a')
  other {room : Nat} {other : String} {draft : Draft} {a a' : α} (hother : other ∈ record.fields)
    (hne : other ≠ name) (h : record.set room other draft a = .ok a') : view a' = view a

namespace Field

/-- A field that is put into the structure as it is read. -/
theorem ofPut (put : α → β → α) (nodup : record.fields.Nodup) (mem : name ∈ record.fields)
    (hset : ∀ {room draft} a, record.set room name draft a = return put a (← read room draft))
    (hput : ∀ {a} b, view (put a b) = b)
    (hother : ∀ {room other draft a a'}, other ∈ record.fields → other ≠ name →
      record.set room other draft a = .ok a' → view a' = view a) :
    record.Field name view read where
  nodup := nodup
  mem := mem
  set h := by
    rw [hset] at h
    obtain ⟨b, hb, h⟩ := bind_eq_ok_iff.1 h
    cases h
    rw [hb, hput]
  other := hother

variable (field : record.Field name view read) {room : Nat}

include field

/-- No field is set twice, so the member that sets a field is the last one of its name. -/
theorem setMembers : ∀ (members : Draft.Members) {seen seen' : List String} {a a' : α},
    record.setMembers room seen a members = .ok (seen', a') →
      (name ∈ seen → members.last? name = none) ∧
        (members.last? name).elim (.ok (view a)) (read room) = .ok (view a')
  | .closed, _, _, _, _, h => by
    cases h
    exact ⟨fun _ => rfl, rfl⟩
  | .cut _, _, _, _, _, h => by cases h
  | .member key value rest, seen, _, a, _, h => by
    obtain ⟨found, hfound, h⟩ := bind_eq_ok_iff.1 h
    have hkey : key.text.toOption = some found := by rw [hfound, Except.toOption]
    rw [Draft.Members.last?, hkey]
    split_ifs at h with hmem hseen
    · obtain ⟨b, hb, h⟩ := bind_eq_ok_iff.1 h
      obtain ⟨hnone, hrest⟩ := setMembers rest h
      by_cases hname : found = name
      · subst hname
        rw [hnone List.mem_cons_self] at hrest ⊢
        refine ⟨fun h => absurd (List.contains_iff_mem.2 h) hseen, ?_⟩
        rw [Option.none_or, if_pos rfl]
        exact (field.set hb).trans hrest
      · rw [field.other (List.contains_iff_mem.1 hmem) hname hb] at hrest
        simpa [hname] using ⟨fun h => hnone (List.mem_cons_of_mem _ h), hrest⟩
    · obtain ⟨_, -, h⟩ := bind_eq_ok_iff.1 h
      have hname : found ≠ name := by
        rintro rfl
        exact hmem (List.contains_iff_mem.2 field.mem)
      simpa [hname] using setMembers rest h

theorem setItems : ∀ (fields : List String) (items : Draft.Items) {a a' : α}, fields.Nodup →
    fields ⊆ record.fields → record.setItems room a fields items = .ok a' →
      (if name ∈ fields then items.get? (fields.idxOf name) else none).elim (.ok (view a))
        (read room) = .ok (view a')
  | [], items, a, _, _, _, h => by
    obtain ⟨_, -, rfl⟩ := map_eq_ok_iff.1 h
    rfl
  | _ :: _, .cut _, _, _, _, _, h => by cases h
  | found :: fields, .item head rest, a, _, hnodup, hsub, h => by
    obtain ⟨b, hb, h⟩ := bind_eq_ok_iff.1 h
    obtain ⟨hfound, hnodup⟩ := List.nodup_cons.1 hnodup
    obtain ⟨hmem, hsub⟩ := List.cons_subset.1 hsub
    have hrest := setItems fields rest hnodup hsub h
    by_cases hname : found = name
    · subst hname
      rw [if_neg hfound] at hrest
      rw [if_pos List.mem_cons_self, List.idxOf_cons_self]
      exact (field.set hb).trans hrest
    · rw [field.other hmem hname hb] at hrest
      simpa [List.idxOf_cons_ne _ hname, Ne.symm hname, Draft.Items.get?] using hrest
  | found :: fields, .closed, a, _, _, _, h => by
    rw [Record.setItems] at h
    split at h
    · cases h
      simp [Draft.Items.get?]
    · cases h

end Field

/-- **A field holds what is read from its part**, or what it has at first if there is no part for
it. -/
theorem decode_field (field : record.Field name view read) {initial a : α} {room : Nat}
    {draft : Draft} (h : record.decode initial room draft = .ok a) :
    ∃ room', Draft.enter room = .ok room' ∧
      draft.readPart record.fields name (view initial) (read room') = .ok (view a) := by
  cases draft with
  | list items =>
    obtain ⟨room', hroom, h⟩ := bind_eq_ok_iff.1 h
    have hread := field.setItems record.fields items field.nodup (List.Subset.refl _) h
    rw [if_pos field.mem] at hread
    exact ⟨room', hroom, hread⟩
  | object members =>
    obtain ⟨room', hroom, h⟩ := bind_eq_ok_iff.1 h
    obtain ⟨⟨seen, b⟩, hb, h⟩ := bind_eq_ok_iff.1 h
    dsimp only at h
    split at h
    · cases h
      exact ⟨room', hroom, (field.setMembers members hb).2⟩
    · cases h
  | null | bool | number | string | broken => cases h

end Record

namespace Draft

variable {α : Type}

theorem Members.map_last? {read : Draft → Except Cause α} (name : String) :
    ∀ {members : Members} {l : List (String × α)}, members.mapM read = .ok l →
      (members.last? name).map read = (l.reverse.lookup name).map .ok
  | .closed, _, h => by
    cases h
    rfl
  | .cut _, _, h => by cases h
  | .member key value rest, _, h => by
    obtain ⟨found, hfound, h⟩ := bind_eq_ok_iff.1 h
    obtain ⟨a, ha, h⟩ := bind_eq_ok_iff.1 h
    obtain ⟨l, hl, h⟩ := bind_eq_ok_iff.1 h
    cases h
    have hkey : key.text.toOption = some found := by rw [hfound, Except.toOption]
    rw [Members.last?, hkey, Option.map_or, map_last? name hl, List.reverse_cons,
      List.lookup_append, Option.map_or, Dict.lookup_cons_eq_ite]
    by_cases hname : name = found
    · simp [hname, ha]
    · simp [hname, Ne.symm hname]

/-- A dictionary holds what is read from the members of an object. -/
theorem map_member?_of_asDict {room : Nat} {read : Nat → Draft → Except Cause α} {draft : Draft}
    {d : Dict α} (h : draft.asDict room read = .ok d) :
    ∃ room', ∀ name, (draft.member? name).map (read room') = (d.get? name).map .ok := by
  cases draft with
  | object members =>
    obtain ⟨room', -, h⟩ := bind_eq_ok_iff.1 h
    obtain ⟨l, hl, h⟩ := bind_eq_ok_iff.1 h
    cases h
    refine ⟨room', fun name => ?_⟩
    rw [Dict.get?_ofList]
    exact Members.map_last? name hl
  | null | bool | number | string | list | broken => cases h

theorem Items.forall₂_of_mapM {read : Draft → Except Cause α} :
    ∀ {items : Items} {l : List α}, items.mapM read = .ok l →
      List.Forall₂ (fun part a => read part = .ok a) items.toList l
  | .closed, _, h => by
    cases h
    exact .nil
  | .cut _, _, h => by cases h
  | .item head rest, _, h => by
    obtain ⟨a, ha, h⟩ := bind_eq_ok_iff.1 h
    obtain ⟨l, hl, h⟩ := bind_eq_ok_iff.1 h
    cases h
    exact .cons ha (forall₂_of_mapM hl)

/-- A list holds what is read from its items. -/
theorem forall₂_items_of_asList {room : Nat} {read : Nat → Draft → Except Cause α} {draft : Draft}
    {l : List α} (h : draft.asList room read = .ok l) :
    ∃ room', List.Forall₂ (fun part a => read room' part = .ok a) draft.items l := by
  cases draft with
  | list items =>
    obtain ⟨room', -, h⟩ := bind_eq_ok_iff.1 h
    exact ⟨room', Items.forall₂_of_mapM h⟩
  | null | bool | number | string | object | broken => cases h

theorem readPart_map {β : Type} {fields : List String} {name : String}
    {read : Draft → Except Cause α} {draft : Draft} (f : α → β) (default : α) :
    draft.readPart fields name (f default) (fun part => (read part).map f) =
      (draft.readPart fields name default read).map f := by
  rw [readPart, readPart]
  cases draft.part? fields name <;> rfl

section ReadPart

variable {fields : List String} {name : String} {read : Draft → Except Cause α} {draft : Draft}

theorem readPart_cases {default a : α} (h : draft.readPart fields name default read = .ok a) :
    (draft.part? fields name = none ∧ a = default) ∨
      ∃ part, draft.part? fields name = some part ∧ read part = .ok a := by
  rw [readPart] at h
  cases hpart : draft.part? fields name with
  | none =>
    rw [hpart] at h
    exact .inl ⟨rfl, (Except.ok.inj h).symm⟩
  | some part =>
    rw [hpart] at h
    exact .inr ⟨part, rfl, h⟩

/-- From a part that may be missing or `null` something is read if it is present. -/
theorem present?_cases {found : Option α}
    (h : draft.readPart fields name none (optional read) = .ok found) :
    (draft.present? fields name = none ∧ found = none) ∨
      ∃ part a, draft.present? fields name = some part ∧ read part = .ok a ∧ found = some a := by
  rw [present?]
  obtain ⟨hpart, rfl⟩ | ⟨part, hpart, h⟩ := readPart_cases h
  · rw [hpart]
    exact .inl ⟨rfl, rfl⟩
  · rw [hpart]
    unfold optional at h
    split at h
    · cases h
      exact .inl ⟨rfl, rfl⟩
    · next hnull =>
      have hne : part ≠ .null := hnull
      obtain ⟨a, ha, rfl⟩ := map_eq_ok_iff.1 h
      exact .inr ⟨part, a, by simp [hne], ha, rfl⟩

end ReadPart

/-- What is only passed over is kept as it is. -/
theorem present?_of_raw {fields : List String} {name : String} {draft : Draft}
    {found : Option Draft} (h : draft.readPart fields name none (optional raw) = .ok found) :
    found = draft.present? fields name := by
  obtain ⟨hpart, rfl⟩ | ⟨part, kept, hpart, hkept, rfl⟩ := present?_cases h
  · rw [hpart]
  · obtain ⟨_, -, rfl⟩ := map_eq_ok_iff.1 hkept
    rw [hpart]

end Draft

end Json

end SceneScript
