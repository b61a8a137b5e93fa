import Mathlib.Data.List.Forall2
import SceneScript.Proofs.Drafts

/-!
# Members in another order

The members of an object can be written in any order. Two drafts that differ only in such orders,
and in how strings and numbers are spelled, are read alike: either both are refused, though maybe
for different reasons, since the fault that comes first is the one that is reported, or both are
accepted, and what is read from them is the same but for orders that are left in it.

* `Agree`: both readings fail, or both succeed and their results are related.
* `Draft.Reordered`: drafts that differ in the order of members.
* **`Draft.Reordered.of_perm`**: objects whose members are the same in any order.
* `Record.Separate`: the fields of a structure are set independently of each other.
* **`Record.Separate.decode`**: such a structure is read alike from reordered drafts.
-/

namespace SceneScript

section Dictionaries

variable {α : Type} {R : α → α → Prop}

theorem rel_refl (hrefl : ∀ a, R a a) : ∀ a : Option α, Option.Rel R a a
  | none => .none
  | some a => .some (hrefl a)

theorem rel_trans (htrans : ∀ ⦃a b c⦄, R a b → R b c → R a c) {a b c : Option α}
    (h : Option.Rel R a b) (h' : Option.Rel R b c) : Option.Rel R a c := by
  cases h with
  | some hab =>
    cases h' with
    | some hbc => exact .some (htrans hab hbc)
  | none => exact h'

theorem rel_some_left {a : α} {b : Option α} (h : Option.Rel R (some a) b) :
    ∃ a', b = some a' ∧ R a a' := by
  cases h with
  | some hab => exact ⟨_, rfl, hab⟩

theorem rel_some_right {a : Option α} {b : α} (h : Option.Rel R a (some b)) :
    ∃ b', a = some b' ∧ R b' b := by
  cases h with
  | some hab => exact ⟨_, rfl, hab⟩

theorem forall₂_trans (htrans : ∀ ⦃a b c⦄, R a b → R b c → R a c) {l l' l'' : List α}
    (h : List.Forall₂ R l l') (h' : List.Forall₂ R l' l'') : List.Forall₂ R l l'' := by
  induction h generalizing l'' with
  | nil => exact h'
  | cons hab _ ih =>
    cases h' with
    | cons hbc hrest => exact .cons (htrans hab hbc) (ih hrest)

/-- Dictionaries with the same names and related values. -/
def Dict.Alike (R : α → α → Prop) (d d' : Dict α) : Prop :=
  ∀ name, Option.Rel R (d.get? name) (d'.get? name)

theorem Dict.Alike.refl (hrefl : ∀ a, R a a) (d : Dict α) : d.Alike R d :=
  fun _ => rel_refl hrefl _

theorem Dict.Alike.trans (htrans : ∀ ⦃a b c⦄, R a b → R b c → R a c) {d d' d'' : Dict α}
    (h : d.Alike R d') (h' : d'.Alike R d'') : d.Alike R d'' :=
  fun name => rel_trans htrans (h name) (h' name)

/-- Alike dictionaries list the same names one after another. -/
theorem Dict.forall₂_of_lookup : ∀ {l l' : List (String × α)},
    l.Pairwise (fun a b => a.1 < b.1) → l'.Pairwise (fun a b => a.1 < b.1) →
    (∀ name, Option.Rel R (l.lookup name) (l'.lookup name)) →
      List.Forall₂ (fun e e' => e.1 = e'.1 ∧ R e.2 e'.2) l l'
  | [], [], _, _, _ => .nil
  | [], e' :: l', _, _, h => by
    have hrel := h e'.1
    rw [lookup_cons_eq_ite, if_pos rfl] at hrel
    cases hrel
  | e :: l, [], _, _, h => by
    have hrel := h e.1
    rw [lookup_cons_eq_ite, if_pos rfl] at hrel
    cases hrel
  | e :: l, e' :: l', hl, hl', h => by
    obtain ⟨hmin, hrest⟩ := List.pairwise_cons.1 hl
    obtain ⟨hmin', hrest'⟩ := List.pairwise_cons.1 hl'
    have hrel := h e.1
    have hrel' := h e'.1
    have hname : e.1 = e'.1 := by
      by_contra hne
      rw [lookup_cons_eq_ite, if_pos rfl, lookup_cons_eq_ite, if_neg hne] at hrel
      rw [lookup_cons_eq_ite, if_neg (Ne.symm hne), lookup_cons_eq_ite, if_pos rfl] at hrel'
      obtain ⟨b, hb, -⟩ := rel_some_left hrel
      obtain ⟨a, ha, -⟩ := rel_some_right hrel'
      have hlt : e.1 < e'.1 := hmin (e'.1, a) (mem_of_lookup ha)
      have hgt : e'.1 < e.1 := hmin' (e.1, b) (mem_of_lookup hb)
      exact String.lt_asymm hlt hgt
    rw [lookup_cons_eq_ite, if_pos rfl, lookup_cons_eq_ite, if_pos hname] at hrel
    obtain ⟨b, hb, hvalue⟩ := rel_some_left hrel
    obtain rfl := Option.some.inj hb
    refine .cons ⟨hname, hvalue⟩ (forall₂_of_lookup hrest hrest' fun name => ?_)
    by_cases hfirst : name = e.1
    · have hnone {l : List (String × α)} (hmin : ∀ entry ∈ l, e.1 < entry.1) :
          l.lookup name = none := by
        refine lookup_eq_none fun hmem => ?_
        obtain ⟨entry, hentry, heq⟩ := List.mem_map.1 hmem
        exact String.lt_irrefl _ (heq.trans hfirst ▸ hmin entry hentry)
      rw [hnone hmin, hnone (hname ▸ hmin')]
      exact .none
    · have hothers := h name
      rwa [lookup_cons_eq_ite, lookup_cons_eq_ite, if_neg hfirst, if_neg (hname ▸ hfirst)]
        at hothers

theorem Dict.Alike.entries {d d' : Dict α} (h : d.Alike R d') :
    List.Forall₂ (fun e e' => e.1 = e'.1 ∧ R e.2 e'.2) d.entries d'.entries :=
  Dict.forall₂_of_lookup d.sorted d'.sorted h

end Dictionaries

namespace Json

/-! ## Readings that agree -/

/-- Both readings fail, for whatever reasons, or both succeed and their results are related. -/
inductive Agree {α β : Type} (R : α → β → Prop) : Except Cause α → Except Cause β → Prop
  | ok {a : α} {b : β} (h : R a b) : Agree R (.ok a) (.ok b)
  | error (cause cause' : Cause) : Agree R (.error cause) (.error cause')

/-- A reading fails if its second step fails whenever it is reached. -/
theorem bind_fails {α β : Type} {x : Except Cause α} {f : α → Except Cause β}
    (h : ∀ a, x = .ok a → ∃ cause, f a = .error cause) : ∃ cause, x >>= f = .error cause := by
  cases x with
  | error cause => exact ⟨cause, rfl⟩
  | ok a => exact h a rfl

theorem bind_ok {α : Type} (x : Except Cause α) : (x >>= fun a => .ok a) = x := by
  cases x <;> rfl

namespace Agree

variable {α β γ δ : Type} {R : α → β → Prop} {S : γ → δ → Prop} {x : Except Cause α}
  {y : Except Cause β}

theorem refl {R : α → α → Prop} (hR : ∀ a, R a a) (x : Except Cause α) : Agree R x x := by
  cases x with
  | ok a => exact .ok (hR a)
  | error cause => exact .error cause cause

theorem of_eq {x y : Except Cause α} (h : x = y) : Agree Eq x y := h ▸ refl (fun _ => rfl) x

theorem trans {R : α → α → Prop} (hR : ∀ ⦃a b c⦄, R a b → R b c → R a c) {x y z : Except Cause α}
    (h : Agree R x y) (h' : Agree R y z) : Agree R x z := by
  cases h with
  | ok hab =>
    cases h' with
    | ok hbc => exact .ok (hR hab hbc)
  | error cause cause' =>
    cases h' with
    | error _ cause'' => exact .error cause cause''

theorem eq_trans {x y z : Except Cause α} (h : Agree Eq x y) (h' : Agree Eq y z) : Agree Eq x z :=
  trans (fun _ _ _ hab hbc => hab.trans hbc) h h'

theorem imp {R' : α → β → Prop} (h : Agree R x y)
    (himp : ∀ {a b}, x = .ok a → y = .ok b → R a b → R' a b) : Agree R' x y := by
  cases h with
  | ok hab => exact .ok (himp rfl rfl hab)
  | error cause cause' => exact .error cause cause'

theorem exists_of_ok {a : α} (h : Agree R (.ok a) y) : ∃ b, y = .ok b ∧ R a b := by
  cases h with
  | ok hab => exact ⟨_, rfl, hab⟩

theorem exists_of_error {cause : Cause} (h : Agree R (.error cause) y) :
    ∃ cause', y = .error cause' := by
  cases h with
  | error _ cause' => exact ⟨cause', rfl⟩

theorem bind {f : α → Except Cause γ} {g : β → Except Cause δ} (h : Agree R x y)
    (hfg : ∀ {a b}, R a b → Agree S (f a) (g b)) : Agree S (x >>= f) (y >>= g) := by
  cases h with
  | ok hab => exact hfg hab
  | error cause cause' => exact .error cause cause'

theorem map {f : α → γ} {g : β → δ} (h : Agree R x y) (hfg : ∀ {a b}, R a b → S (f a) (g b)) :
    Agree S (x.map f) (y.map g) := by
  cases h with
  | ok hab => exact .ok (hfg hab)
  | error cause cause' => exact .error cause cause'

theorem of_errors (hx : ∃ cause, x = .error cause) (hy : ∃ cause, y = .error cause) :
    Agree R x y := by
  obtain ⟨cause, rfl⟩ := hx
  obtain ⟨cause', rfl⟩ := hy
  exact .error cause cause'

/-- Two readings that do not need each other can be done in either order. -/
theorem comm {α' β' : Type} {x : Except Cause α} {x' : Except Cause α'} {y : Except Cause β}
    {y' : Except Cause β'} {R : α → α' → Prop} {Q : β → β' → Prop} (hx : Agree R x x')
    (hy : Agree Q y y') {f : α → β → Except Cause γ} {g : β' → α' → Except Cause δ}
    (h : ∀ {a a' b b'}, R a a' → Q b b' → Agree S (f a b) (g b' a')) :
    Agree S (x >>= fun a => y >>= f a) (y' >>= fun b => x' >>= g b) := by
  cases hx with
  | error cause cause' =>
    cases hy with
    | error _ cause'' => exact .error cause cause''
    | ok _ => exact .error cause cause'
  | ok ha =>
    cases hy with
    | error cause cause' => exact .error cause cause'
    | ok hb => exact h ha hb

/-- A reading agrees with itself, and what it gives is known. -/
theorem self (x : Except Cause α) : Agree (fun a a' => x = .ok a ∧ a = a') x x := by
  cases x with
  | error cause => exact .error cause cause
  | ok a => exact .ok ⟨rfl, rfl⟩

end Agree

/-! ## Reordered drafts -/

namespace Draft

/-- Members that do not have the same name. -/
def Distinct (key key' : Spelling) : Prop := ∀ name, key.text = .ok name → key'.text ≠ .ok name

/-- A member that has none of some names. -/
def Free (fixed : String → Prop) (key : Spelling) : Prop := ∀ name, fixed name → key.text ≠ .ok name

mutual

/-- A draft that differs from another one only in the order of members of objects, and in how
strings and numbers are spelled. Members that are named in `fixed` stay where they are if they come
first, and none of them comes first if it did not before. -/
inductive Reordered (fixed : String → Prop) : Draft → Draft → Prop
  | refl (draft : Draft) : Reordered fixed draft draft
  | number {n n' : Numeral} (value : n.value = n'.value) : Reordered fixed (.number n) (.number n')
  | string {s s' : Spelling} (text : s.text = s'.text) (skim : s.skim = s'.skim) :
      Reordered fixed (.string s) (.string s')
  | list {items items' : Items} (h : Items.Reordered fixed items items') :
      Reordered fixed (.list items) (.list items')
  | object {members members' : Members} (h : Members.Reordered fixed true members members') :
      Reordered fixed (.object members) (.object members')
  | trans {d d' d'' : Draft} (h : Reordered fixed d d') (h' : Reordered fixed d' d'') :
      Reordered fixed d d''

/-- Items that differ in the order of members inside of them. -/
inductive Items.Reordered (fixed : String → Prop) : Items → Items → Prop
  | closed : Items.Reordered fixed .closed .closed
  | cut (fault : Fault) : Items.Reordered fixed (.cut fault) (.cut fault)
  | item {head head' : Draft} {rest rest' : Items} (hhead : Reordered fixed head head')
      (hrest : Items.Reordered fixed rest rest') :
      Items.Reordered fixed (.item head rest) (.item head' rest')

/-- Members of which some have changed places with the next one. The flag says whether the first of
them is the first one of its object. -/
inductive Members.Reordered (fixed : String → Prop) : Bool → Members → Members → Prop
  | closed {first : Bool} : Members.Reordered fixed first .closed .closed
  | cut {first : Bool} (fault : Fault) : Members.Reordered fixed first (.cut fault) (.cut fault)
  | member {first : Bool} {key key' : Spelling} {value value' : Draft} {rest rest' : Members}
      (text : key.text = key'.text) (skim : key.skim = key'.skim)
      (hvalue : Reordered fixed value value') (hrest : Members.Reordered fixed false rest rest') :
      Members.Reordered fixed first (.member key value rest) (.member key' value' rest')
  | swap {first : Bool} {key key' : Spelling} {value value' : Draft} {rest rest' : Members}
      (hne : Distinct key key') (hfirst : first = true → Free fixed key ∧ Free fixed key')
      (hrest : Members.Reordered fixed false rest rest') :
      Members.Reordered fixed first (.member key value (.member key' value' rest))
        (.member key' value' (.member key value rest'))

end

theorem optional_of_ne_null {α : Type} {read : Draft → Except Cause α} {draft : Draft}
    (h : draft ≠ .null) : draft.optional read = (read draft).map some := by
  cases draft with
  | null => exact absurd rfl h
  | bool | number | string | list | object | broken => rfl

section Reordered

variable {fixed : String → Prop} {first : Bool}

theorem Members.Reordered.refl : ∀ {first : Bool} (members : Members),
    members.Reordered fixed first members
  | _, .closed => .closed
  | _, .cut fault => .cut fault
  | _, .member _ value rest => .member rfl rfl (.refl value) (Members.Reordered.refl rest)

/-- The members with some names and values. -/
def Members.ofList : List (Spelling × Draft) → Members
  | [] => .closed
  | (key, value) :: rest => .member key value (Members.ofList rest)

theorem Members.reordered_append (before : List (Spelling × Draft)) {l l' : List (Spelling × Draft)}
    (h : ∀ {first}, (Members.ofList l).Reordered fixed first (Members.ofList l')) :
    (Members.ofList (before ++ l)).Reordered fixed first (Members.ofList (before ++ l')) := by
  induction before generalizing first with
  | nil => exact h
  | cons entry before ih => exact .member rfl rfl (.refl _) ih

/-- Objects are reordered if their members are the same in any order and no two of them have the
same name. -/
theorem Reordered.of_perm {l l' : List (Spelling × Draft)} (h : l.Perm l')
    (hnames : l.Pairwise fun entry entry' => Distinct entry.1 entry'.1)
    (hfree : ∀ entry ∈ l, Free fixed entry.1) :
    (Draft.object (Members.ofList l)).Reordered fixed (.object (Members.ofList l')) := by
  suffices hbefore : ∀ before : List (Spelling × Draft),
      (Draft.object (Members.ofList (before ++ l))).Reordered fixed
        (.object (Members.ofList (before ++ l'))) from hbefore []
  have hsymm : ∀ {entry entry' : Spelling × Draft}, Distinct entry.1 entry'.1 →
      Distinct entry'.1 entry.1 := fun hne name hname hname' => hne name hname' hname
  -- the members before those that are permuted grow as the permutation is taken apart
  induction h with
  | nil => exact fun before => .refl _
  | cons entry _ ih =>
    intro before
    have hrest := ih (List.pairwise_cons.1 hnames).2 fun e he => hfree e (List.mem_cons_of_mem _ he)
    simpa using hrest (before ++ [entry])
  | swap entry entry' l =>
    intro before
    obtain ⟨hne, -⟩ := List.pairwise_cons.1 hnames
    refine .object (Members.reordered_append before ?_)
    exact .swap (hne entry List.mem_cons_self)
      (fun _ => ⟨hfree _ List.mem_cons_self, hfree _ (List.mem_cons_of_mem _ List.mem_cons_self)⟩)
      (Members.Reordered.refl _)
  | trans hperm _ ih ih' =>
    intro before
    refine .trans (ih hnames hfree before) (ih' ?_ ?_ before)
    · exact (hperm.pairwise_iff hsymm).1 hnames
    · exact fun e he => hfree e (hperm.mem_iff.2 he)

mutual

theorem Reordered.size_eq {d d' : Draft} : d.Reordered fixed d' → d.size = d'.size
  | .refl _ => rfl
  | .number _ => rfl
  | .string _ _ => rfl
  | .list h => by rw [Draft.size, Draft.size, h.size_eq]
  | .object h => by rw [Draft.size, Draft.size, h.size_eq]
  | .trans h h' => h.size_eq.trans h'.size_eq

theorem Items.Reordered.size_eq {items items' : Items} :
    items.Reordered fixed items' → items.size = items'.size
  | .closed => rfl
  | .cut _ => rfl
  | .item h h' => by rw [Items.size, Items.size, h.size_eq, h'.size_eq]

theorem Members.Reordered.size_eq {first : Bool} {members members' : Members} :
    members.Reordered fixed first members' → members.size = members'.size
  | .closed => rfl
  | .cut _ => rfl
  | .member _ _ h h' => by rw [Members.size, Members.size, h.size_eq, h'.size_eq]
  | .swap _ _ h => by
    simp only [Members.size, h.size_eq]
    omega

end

theorem Members.skim_member (key : Spelling) (value : Draft) (rest : Members) :
    (Members.member key value rest).skim =
      (key.skim >>= fun _ => value.skim) >>= fun _ => rest.skim := by
  rw [Members.skim]
  cases key.skim <;> rfl

mutual

/-- Reordered drafts are passed over alike. -/
theorem Reordered.skim {d d' : Draft} : d.Reordered fixed d' → Agree Eq d.skim d'.skim
  | .refl _ => .of_eq rfl
  | .number _ => .of_eq rfl
  | .string _ h => .of_eq h
  | .list h => h.skim
  | .object h => h.skim
  | .trans h h' => h.skim.eq_trans h'.skim

theorem Items.Reordered.skim {items items' : Items} :
    items.Reordered fixed items' → Agree Eq items.skim items'.skim
  | .closed => .of_eq rfl
  | .cut _ => .of_eq rfl
  | .item h h' => h.skim.bind fun _ => h'.skim

theorem Members.Reordered.skim {first : Bool} {members members' : Members} :
    members.Reordered fixed first members' → Agree Eq members.skim members'.skim
  | .closed => .of_eq rfl
  | .cut _ => .of_eq rfl
  | .member _ hkey h h' => (Agree.of_eq hkey).bind fun _ => h.skim.bind fun _ => h'.skim
  | .swap _ _ h => by
    rw [Members.skim_member, Members.skim_member, Members.skim_member, Members.skim_member]
    exact .comm (.self _) (.self _) fun _ _ => h.skim

end

/-! ## Values of one form -/

theorem Reordered.asText {expected : String} {d d' : Draft} :
    d.Reordered fixed d' → Agree Eq (d.asText expected) (d'.asText expected)
  | .refl _ => .of_eq rfl
  | .string h _ => .of_eq h
  | .number _ | .list _ | .object _ => .error _ _
  | .trans h h' => h.asText.eq_trans h'.asText

theorem Reordered.asBool {d d' : Draft} :
    d.Reordered fixed d' → Agree Eq d.asBool d'.asBool
  | .refl _ => .of_eq rfl
  | .number _ | .string _ _ | .list _ | .object _ => .error _ _
  | .trans h h' => h.asBool.eq_trans h'.asBool

theorem Reordered.asWord32 {d d' : Draft} :
    d.Reordered fixed d' → Agree Eq d.asWord32 d'.asWord32
  | .refl _ => .of_eq rfl
  | .number h => .of_eq (by rw [Draft.asWord32, Draft.asWord32, h])
  | .string _ _ | .list _ | .object _ => .error _ _
  | .trans h h' => h.asWord32.eq_trans h'.asWord32

theorem Reordered.eq_null_iff {d d' : Draft} : d.Reordered fixed d' → (d = .null ↔ d' = .null)
  | .refl _ => Iff.rfl
  | .number _ | .string _ _ | .list _ | .object _ => iff_of_false nofun nofun
  | .trans h h' => h.eq_null_iff.trans h'.eq_null_iff

theorem Reordered.raw {d d' : Draft} (h : d.Reordered fixed d') :
    Agree (Reordered fixed) d.raw d'.raw :=
  h.skim.map fun _ => h

section Forms

variable {α : Type} {R : α → α → Prop}

theorem Reordered.optional {read : Draft → Except Cause α} {d d' : Draft} (h : d.Reordered fixed d')
    (hread : Agree R (read d) (read d')) :
    Agree (Option.Rel R) (d.optional read) (d'.optional read) := by
  by_cases hnull : d = .null
  · rw [hnull, h.eq_null_iff.1 hnull]
    exact .ok .none
  · rw [optional_of_ne_null hnull, optional_of_ne_null (mt h.eq_null_iff.2 hnull)]
    exact hread.map fun hab => .some hab

theorem Items.Reordered.mapM {read : Draft → Except Cause α}
    (hread : ∀ {d d' : Draft}, d.Reordered fixed d' → Agree R (read d) (read d')) :
    ∀ {items items' : Items}, items.Reordered fixed items' →
      Agree (List.Forall₂ R) (items.mapM read) (items'.mapM read)
  | _, _, .closed => .ok .nil
  | _, _, .cut _ => .error _ _
  | _, _, .item h h' =>
    (hread h).bind fun hab => (Items.Reordered.mapM hread h').bind fun hl => .ok (.cons hab hl)

/-- Lists of entries in which the last ones of each name are related. -/
def Lookups (R : α → α → Prop) (l l' : List (String × α)) : Prop :=
  ∀ name, Option.Rel R (l.reverse.lookup name) (l'.reverse.lookup name)

theorem lookup_reverse_cons (entry : String × α) (l : List (String × α)) (name : String) :
    (entry :: l).reverse.lookup name =
      (l.reverse.lookup name).or (if name = entry.1 then some entry.2 else none) := by
  rw [List.reverse_cons, List.lookup_append, Dict.lookup_cons_eq_ite, List.lookup_nil]

theorem rel_or {a a' b b' : Option α} (h : Option.Rel R a a') (h' : Option.Rel R b b') :
    Option.Rel R (a.or b) (a'.or b') := by
  cases h with
  | some hab => exact .some hab
  | none => exact h'

theorem Lookups.cons {l l' : List (String × α)} (h : Lookups R l l') {name : String} {a a' : α}
    (ha : R a a') : Lookups R ((name, a) :: l) ((name, a') :: l') := by
  intro other
  rw [lookup_reverse_cons, lookup_reverse_cons]
  refine rel_or (h other) ?_
  dsimp only
  split_ifs
  · exact .some ha
  · exact .none

theorem Lookups.swap (hrefl : ∀ a, R a a) {l l' : List (String × α)} (h : Lookups R l l')
    {entry entry' : String × α} (hne : entry.1 ≠ entry'.1) :
    Lookups R (entry :: entry' :: l) (entry' :: entry :: l') := by
  intro other
  rw [lookup_reverse_cons, lookup_reverse_cons, lookup_reverse_cons, lookup_reverse_cons,
    Option.or_assoc, Option.or_assoc]
  refine rel_or (h other) ?_
  by_cases hentry : other = entry.1
  · rw [if_pos hentry, if_neg (hentry ▸ hne)]
    exact .some (hrefl _)
  · rw [if_neg hentry]
    split_ifs
    · exact .some (hrefl _)
    · exact .none

/-- The name and the value of a member. -/
def entry (read : Draft → Except Cause α) (key : Spelling) (value : Draft) :
    Except Cause (String × α) :=
  key.text >>= fun name => (read value).map fun a => (name, a)

theorem text_of_entry {read : Draft → Except Cause α} {key : Spelling} {value : Draft}
    {e : String × α} (h : entry read key value = .ok e) : key.text = .ok e.1 := by
  obtain ⟨name, hname, h⟩ := bind_eq_ok_iff.1 h
  obtain ⟨a, -, rfl⟩ := map_eq_ok_iff.1 h
  exact hname

theorem Members.mapM_member (read : Draft → Except Cause α) (key : Spelling) (value : Draft)
    (rest : Members) : (Members.member key value rest).mapM read =
      entry read key value >>= fun e => (rest.mapM read).map (e :: ·) := by
  rw [Members.mapM, entry]
  cases key.text with
  | error cause => rfl
  | ok name => cases read value <;> rfl

theorem Members.agree_mapM_member {read : Draft → Except Cause α} {key key' : Spelling}
    {value value' : Draft} {rest rest' : Members} (htext : key.text = key'.text)
    (hvalue : Agree R (read value) (read value'))
    (hrest : Agree (Lookups R) (rest.mapM read) (rest'.mapM read)) :
    Agree (Lookups R) ((Members.member key value rest).mapM read)
      ((Members.member key' value' rest').mapM read) := by
  rw [Members.mapM_member, Members.mapM_member, entry, entry, htext]
  cases key'.text with
  | error cause => exact .error _ _
  | ok name =>
    refine Agree.bind (hvalue.map (S := fun e e' => e.1 = name ∧ e'.1 = name ∧ R e.2 e'.2)
      fun hab => ⟨rfl, rfl, hab⟩) ?_
    rintro ⟨_, a⟩ ⟨_, a'⟩ ⟨rfl, hname, hab⟩
    obtain rfl := hname
    exact hrest.map fun hl => hl.cons hab

theorem Members.agree_mapM_swap (hrefl : ∀ a, R a a) {read : Draft → Except Cause α}
    {key key' : Spelling} {rest rest' : Members} (hne : Distinct key key') (value value' : Draft)
    (hrest : Agree (Lookups R) (rest.mapM read) (rest'.mapM read)) :
    Agree (Lookups R) ((Members.member key value (.member key' value' rest)).mapM read)
      ((Members.member key' value' (.member key value rest')).mapM read) := by
  have htwo (key key' : Spelling) (value value' : Draft) (rest : Members) :
      (Members.member key value (.member key' value' rest)).mapM read =
        entry read key value >>= fun e => entry read key' value' >>= fun e' =>
          (rest.mapM read).map fun l => e :: e' :: l := by
    rw [Members.mapM_member, Members.mapM_member]
    cases entry read key' value' <;> cases rest.mapM read <;> rfl
  rw [htwo, htwo]
  refine .comm (.self _) (.self _) ?_
  rintro e _ e' _ ⟨he, rfl⟩ ⟨he', rfl⟩
  refine hrest.map fun hl => hl.swap hrefl fun hname => ?_
  exact hne e.1 (text_of_entry he) (hname ▸ text_of_entry he')

theorem Members.Reordered.mapM (hrefl : ∀ a, R a a) {read : Draft → Except Cause α}
    (hread : ∀ {d d' : Draft}, d.Reordered fixed d' → Agree R (read d) (read d')) :
    ∀ {first : Bool} {members members' : Members}, members.Reordered fixed first members' →
      Agree (Lookups R) (members.mapM read) (members'.mapM read)
  | _, _, _, .closed => .ok fun _ => .none
  | _, _, _, .cut _ => .error _ _
  | _, _, _, .member htext _ h h' =>
    Members.agree_mapM_member htext (hread h) (Members.Reordered.mapM hrefl hread h')
  | _, _, _, .swap hne _ h =>
    Members.agree_mapM_swap hrefl hne _ _ (Members.Reordered.mapM hrefl hread h)

section

variable (hrefl : ∀ a, R a a) (htrans : ∀ ⦃a b c⦄, R a b → R b c → R a c)
  {read : Nat → Draft → Except Cause α}
  (hread : ∀ room ⦃d d'⦄, d.Reordered fixed d' → Agree R (read room d) (read room d'))

include hrefl htrans hread

theorem Reordered.asList {room : Nat} : ∀ {d d' : Draft}, d.Reordered fixed d' →
    Agree (List.Forall₂ R) (d.asList room read) (d'.asList room read)
  | _, _, .refl d => .refl (fun _ => List.forall₂_same.2 fun a _ => hrefl a) _
  | _, _, .number _ | _, _, .string _ _ | _, _, .object _ => .error _ _
  | _, _, .list h => by
    refine (Agree.of_eq rfl).bind ?_
    rintro room _ rfl
    exact h.mapM fun hd => hread room hd
  | _, _, .trans h h' =>
    .trans (R := List.Forall₂ R) (fun _ _ _ => forall₂_trans htrans) (Reordered.asList h)
      (Reordered.asList h')

theorem Reordered.asDict {room : Nat} : ∀ {d d' : Draft}, d.Reordered fixed d' →
    Agree (Dict.Alike R) (d.asDict room read) (d'.asDict room read)
  | _, _, .refl d => .refl (Dict.Alike.refl hrefl) _
  | _, _, .number _ | _, _, .string _ _ | _, _, .list _ => .error _ _
  | _, _, .object h => by
    refine (Agree.of_eq rfl).bind ?_
    rintro room _ rfl
    refine (h.mapM hrefl fun hd => hread room hd).bind fun hl => .ok fun name => ?_
    rw [Dict.get?_ofList, Dict.get?_ofList]
    exact hl name
  | _, _, .trans h h' =>
    .trans (R := Dict.Alike R) (fun _ _ _ => Dict.Alike.trans htrans) (Reordered.asDict h)
      (Reordered.asDict h')

end

end Forms

end Reordered

end Draft

/-! ## Structures -/

namespace Record

variable {α : Type}

/-- The fields of a structure are set independently of each other: what a field is set to depends
only on the draft that it is read from, up to the order of members, and the other fields stay as
they are. `Same` compares one field of two structures. -/
structure Separate (record : Record α) (fixed : String → Prop) (Same : String → α → α → Prop) :
    Prop where
  refl : ∀ name a, Same name a a
  trans : ∀ name ⦃a b c⦄, Same name a b → Same name b c → Same name a c
  set : ∀ {room name d d'} (a a' : α), name ∈ record.fields → d.Reordered fixed d' →
    Agree (Same name) (record.set room name d a) (record.set room name d' a')
  keeps : ∀ {room name other d a b}, name ∈ record.fields → other ∈ record.fields → other ≠ name →
    record.set room name d a = .ok b → Same other a b ∧ Same other b a

/-- Structures with the same fields. -/
def Match (record : Record α) (Same : String → α → α → Prop) (a a' : α) : Prop :=
  ∀ name ∈ record.fields, Same name a a'

/-- The fields set so far are the same, and so are their names. -/
def MatchSoFar (record : Record α) (Same : String → α → α → Prop) (p p' : List String × α) : Prop :=
  (∀ name, name ∈ p.1 ↔ name ∈ p'.1) ∧ record.Match Same p.2 p'.2

/-- Sets the field of one member, or passes over the member. -/
def setMember (record : Record α) (room : Nat) (key : Spelling) (value : Draft)
    (p : List String × α) : Except Cause (List String × α) :=
  key.text >>= fun name =>
    if name ∈ record.fields then
      if name ∈ p.1 then .error (.duplicateField name)
      else (record.set room name value p.2).map fun a => (name :: p.1, a)
    else value.skim.map fun _ => p

theorem setMembers_member (record : Record α) (room : Nat) (key : Spelling) (value : Draft)
    (rest : Draft.Members) (seen : List String) (a : α) :
    record.setMembers room seen a (.member key value rest) =
      record.setMember room key value (seen, a) >>= fun p =>
        record.setMembers room p.1 p.2 rest := by
  rw [setMembers, setMember]
  cases key.text with
  | error cause => rfl
  | ok name =>
    show (if _ then _ else _) = (if _ then _ else _) >>= _
    simp only [List.contains_iff_mem]
    split_ifs
    · rfl
    · cases record.set room name value a <;> rfl
    · cases value.skim <;> rfl

section

variable {record : Record α} {room : Nat} {key : Spelling} {value : Draft} {p : List String × α}

/-- A member always fails, or it is always passed over, or it sets a field. -/
theorem setMember_cases (record : Record α) (room : Nat) (key : Spelling) (value : Draft) :
    (∃ cause, ∀ p, record.setMember room key value p = .error cause) ∨
      (∀ p, record.setMember room key value p = .ok p) ∨
      ∃ name ∈ record.fields, key.text = .ok name := by
  cases hkey : key.text with
  | error cause => exact .inl ⟨cause, fun p => by rw [setMember, hkey]; rfl⟩
  | ok name =>
    by_cases hname : name ∈ record.fields
    · exact .inr (.inr ⟨name, hname, rfl⟩)
    · have hskim (p : List String × α) :
          record.setMember room key value p = value.skim.map fun _ => p := by
        rw [setMember, hkey]
        exact if_neg hname
      cases hvalue : value.skim with
      | error cause => exact .inl ⟨cause, fun p => by rw [hskim, hvalue]; rfl⟩
      | ok _ => exact .inr (.inl fun p => by rw [hskim, hvalue]; rfl)

theorem setMember_of_mem {name : String} (hname : name ∈ record.fields) (h : key.text = .ok name) :
    record.setMember room key value p =
      if name ∈ p.1 then .error (.duplicateField name)
      else (record.set room name value p.2).map fun a => (name :: p.1, a) := by
  rw [setMember, h]
  exact if_pos hname

/-- Names that have been seen stay seen. -/
theorem mem_of_setMember {q : List String × α} (h : record.setMember room key value p = .ok q)
    {name : String} (hname : name ∈ p.1) : name ∈ q.1 := by
  obtain ⟨other, -, h⟩ := bind_eq_ok_iff.1 h
  split_ifs at h
  · obtain ⟨a, -, rfl⟩ := map_eq_ok_iff.1 h
    exact List.mem_cons_of_mem other hname
  · obtain ⟨_, -, rfl⟩ := map_eq_ok_iff.1 h
    exact hname

/-- Two members that set different fields. -/
theorem setMember_setMember {name name' : String} (hname : name ∈ record.fields)
    (hname' : name' ∈ record.fields) (hne : name ≠ name') {key' : Spelling} {value' : Draft}
    (hkey : key.text = .ok name) (hkey' : key'.text = .ok name') (hseen : name ∉ p.1)
    (hseen' : name' ∉ p.1) :
    record.setMember room key value p >>= record.setMember room key' value' =
      (record.set room name value p.2 >>= record.set room name' value').map
        fun a => (name' :: name :: p.1, a) := by
  rw [setMember_of_mem hname hkey, if_neg hseen]
  cases record.set room name value p.2 with
  | error cause => rfl
  | ok a =>
    show record.setMember room key' value' (name :: p.1, a) = _
    rw [setMember_of_mem hname' hkey', if_neg]
    · rfl
    · rw [List.mem_cons]
      exact not_or_intro hne.symm hseen'

end

theorem agree_endOfFields {fixed : String → Prop} {items items' : Draft.Items} :
    items.Reordered fixed items' → Agree Eq (endOfFields items) (endOfFields items')
  | .closed => .of_eq rfl
  | .cut _ => .of_eq rfl
  | .item _ _ => .error _ _

namespace Separate

variable {record : Record α} {fixed : String → Prop} {Same : String → α → α → Prop}
  (h : record.Separate fixed Same) {room : Nat}

include h

theorem match_refl (a : α) : record.Match Same a a := fun name _ => h.refl name a

theorem match_trans ⦃a b c : α⦄ (hab : record.Match Same a b) (hbc : record.Match Same b c) :
    record.Match Same a c :=
  fun name hname => h.trans name (hab name hname) (hbc name hname)

theorem set_match {name : String} (hname : name ∈ record.fields) {d d' : Draft}
    (hd : d.Reordered fixed d') {a a' : α} (ha : record.Match Same a a') :
    Agree (record.Match Same) (record.set room name d a) (record.set room name d' a') := by
  refine (h.set a a' hname hd).imp fun hb hb' hsame other hother => ?_
  by_cases heq : other = name
  · rw [heq]
    exact hsame
  · have hkept := (h.keeps hname hother heq hb).2
    have hkept' := (h.keeps hname hother heq hb').1
    exact h.trans other hkept (h.trans other (ha other hother) hkept')

/-- Two fields can be set in either order. -/
theorem set_comm {name name' : String} (hname : name ∈ record.fields)
    (hname' : name' ∈ record.fields) (hne : name ≠ name') (d d' : Draft) {a a' : α}
    (ha : record.Match Same a a') :
    Agree (record.Match Same) (record.set room name d a >>= record.set room name' d')
      (record.set room name' d' a' >>= record.set room name d) := by
  have hfirst (b b' : α) : Agree (Same name) (record.set room name d b)
      (record.set room name d b') := h.set b b' hname (.refl d)
  have hsecond (b b' : α) : Agree (Same name') (record.set room name' d' b)
      (record.set room name' d' b') := h.set b b' hname' (.refl d')
  cases hb : record.set room name d a with
  | error cause =>
    cases hb' : record.set room name' d' a' with
    | error cause' => exact .error cause cause'
    | ok b' =>
      obtain ⟨cause', hcause'⟩ := (hb ▸ hfirst a b').exists_of_error
      show Agree _ (.error cause) (record.set room name d b')
      rw [hcause']
      exact .error cause cause'
  | ok b =>
    show Agree _ (record.set room name' d' b) _
    cases hc : record.set room name' d' b with
    | error cause =>
      obtain ⟨cause', hcause'⟩ := (hc ▸ hsecond b a').exists_of_error
      rw [hcause']
      exact .error cause cause'
    | ok c =>
      obtain ⟨b', hb', hsame'⟩ := (hc ▸ hsecond b a').exists_of_ok
      obtain ⟨c', hc', hsame⟩ := (hb ▸ hfirst a b').exists_of_ok
      rw [hb']
      show Agree _ _ (record.set room name d b')
      rw [hc']
      refine .ok fun other hother => ?_
      -- a field is the one set first, the one set second, or neither
      by_cases hother₁ : other = name
      · subst hother₁
        exact h.trans other (h.keeps hname' hother hne hc).2 hsame
      by_cases hother₂ : other = name'
      · subst hother₂
        exact h.trans other hsame' (h.keeps hname hother hne.symm hc').1
      · have hleft := h.trans other (h.keeps hname' hother hother₂ hc).2
          (h.keeps hname hother hother₁ hb).2
        have hright := h.trans other (h.keeps hname' hother hother₂ hb').1
          (h.keeps hname hother hother₁ hc').1
        exact h.trans other hleft (h.trans other (ha other hother) hright)

variable {p p' : List String × α}

theorem setMember {key key' : Spelling} (htext : key.text = key'.text) {value value' : Draft}
    (hvalue : value.Reordered fixed value') (hp : record.MatchSoFar Same p p') :
    Agree (record.MatchSoFar Same) (record.setMember room key value p)
      (record.setMember room key' value' p') := by
  rw [Record.setMember, Record.setMember, htext]
  refine (Agree.of_eq rfl).bind ?_
  rintro name _ rfl
  by_cases hname : name ∈ record.fields
  · rw [if_pos hname, if_pos hname]
    by_cases hseen : name ∈ p.1
    · rw [if_pos hseen, if_pos ((hp.1 name).1 hseen)]
      exact .error _ _
    · rw [if_neg hseen, if_neg (mt (hp.1 name).2 hseen)]
      refine (h.set_match hname hvalue hp.2).map fun ha => ⟨fun other => ?_, ha⟩
      rw [List.mem_cons, List.mem_cons, hp.1]
  · rw [if_neg hname, if_neg hname]
    exact hvalue.skim.map fun _ => hp

/-- Two members can be taken in either order. -/
theorem setMember_comm {key key' : Spelling} (hne : Draft.Distinct key key') (value value' : Draft)
    (hp : record.MatchSoFar Same p p') :
    Agree (record.MatchSoFar Same)
      (record.setMember room key value p >>= record.setMember room key' value')
      (record.setMember room key' value' p' >>= record.setMember room key value) := by
  have hfirst : Agree (record.MatchSoFar Same) (record.setMember room key value p)
      (record.setMember room key value p') := h.setMember rfl (.refl value) hp
  have hsecond : Agree (record.MatchSoFar Same) (record.setMember room key' value' p)
      (record.setMember room key' value' p') := h.setMember rfl (.refl value') hp
  rcases record.setMember_cases room key value with ⟨cause, hfails⟩ | hidle | ⟨name, hname, hkey⟩
  · rw [hfails]
    exact .of_errors ⟨cause, rfl⟩ (bind_fails fun q _ => ⟨cause, hfails q⟩)
  · rw [hidle, funext hidle, bind_ok]
    exact hsecond
  rcases record.setMember_cases room key' value' with
    ⟨cause, hfails⟩ | hidle | ⟨name', hname', hkey'⟩
  · rw [hfails p']
    exact .of_errors (bind_fails fun q _ => ⟨cause, hfails q⟩) ⟨cause, rfl⟩
  · rw [hidle p', funext hidle, bind_ok]
    exact hfirst
  have hnames : name ≠ name' := fun heq => hne name hkey (heq ▸ hkey')
  by_cases hseen : name ∈ p.1
  · have hdouble {q : List String × α} (hq : name ∈ q.1) :
        record.setMember room key value q = .error (.duplicateField name) := by
      rw [setMember_of_mem hname hkey, if_pos hq]
    rw [hdouble hseen]
    exact .of_errors ⟨_, rfl⟩
      (bind_fails fun q hq => ⟨_, hdouble (mem_of_setMember hq ((hp.1 name).1 hseen))⟩)
  by_cases hseen' : name' ∈ p.1
  · have hdouble {q : List String × α} (hq : name' ∈ q.1) :
        record.setMember room key' value' q = .error (.duplicateField name') := by
      rw [setMember_of_mem hname' hkey', if_pos hq]
    rw [hdouble ((hp.1 name').1 hseen')]
    exact .of_errors (bind_fails fun q hq => ⟨_, hdouble (mem_of_setMember hq hseen')⟩) ⟨_, rfl⟩
  · rw [setMember_setMember hname hname' hnames hkey hkey' hseen hseen',
      setMember_setMember hname' hname hnames.symm hkey' hkey (mt (hp.1 name').2 hseen')
        (mt (hp.1 name).2 hseen)]
    refine (h.set_comm hname hname' hnames value value' hp.2).map fun ha => ⟨fun other => ?_, ha⟩
    simp only [List.mem_cons, hp.1, or_left_comm]

theorem setMembers : ∀ {first : Bool} {members members' : Draft.Members}
    {p p' : List String × α}, members.Reordered fixed first members' →
    record.MatchSoFar Same p p' → Agree (record.MatchSoFar Same)
      (record.setMembers room p.1 p.2 members) (record.setMembers room p'.1 p'.2 members')
  | _, _, _, _, _, .closed, hp => .ok hp
  | _, _, _, _, _, .cut _, _ => .error _ _
  | _, _, _, _, _, .member htext _ hvalue hrest, hp => by
    rw [setMembers_member, setMembers_member]
    exact (h.setMember htext hvalue hp).bind fun hq => setMembers hrest hq
  | _, _, _, _, _, .swap hne _ hrest, hp => by
    rw [setMembers_member, setMembers_member]
    simp only [setMembers_member, ← bind_assoc]
    exact (h.setMember_comm hne _ _ hp).bind fun hq => setMembers hrest hq

theorem setItems : ∀ {names : List String} {items items' : Draft.Items} {a a' : α},
    names ⊆ record.fields → items.Reordered fixed items' → record.Match Same a a' →
      Agree (record.Match Same) (record.setItems room a names items)
        (record.setItems room a' names items')
  | [], _, _, _, _, _, hitems, ha => by
    rw [Record.setItems, Record.setItems]
    exact (agree_endOfFields hitems).map fun _ => ha
  | name :: names, _, _, a, a', hnames, .closed, ha => by
    rw [Record.setItems, Record.setItems]
    cases (name :: names).find? record.required.contains with
    | none => exact .ok ha
    | some missing => exact .error _ _
  | _ :: _, _, _, _, _, _, .cut _, _ => .error _ _
  | name :: names, _, _, _, _, hnames, .item hhead hrest, ha => by
    obtain ⟨hname, hnames⟩ := List.cons_subset.1 hnames
    exact (h.set_match hname hhead ha).bind fun hb => setItems hnames hrest hb

/-- A structure is read alike from reordered drafts. -/
theorem decode {initial : α} : ∀ {d d' : Draft}, d.Reordered fixed d' →
    Agree (record.Match Same) (record.decode initial room d) (record.decode initial room d')
  | _, _, .refl d => .refl h.match_refl _
  | _, _, .number _ | _, _, .string _ _ => .error _ _
  | _, _, .list hitems => by
    refine (Agree.of_eq rfl).bind ?_
    rintro room _ rfl
    exact h.setItems (List.Subset.refl _) hitems (h.match_refl initial)
  | _, _, .object hmembers => by
    refine (Agree.of_eq rfl).bind ?_
    rintro room _ rfl
    have hstart : record.MatchSoFar Same ([], initial) ([], initial) :=
      ⟨fun _ => Iff.rfl, h.match_refl initial⟩
    refine (h.setMembers hmembers hstart).bind ?_
    rintro ⟨seen, a⟩ ⟨seen', a'⟩ ⟨hseen, ha⟩
    have hmissing : (fun name => !seen.contains name) = fun name => !seen'.contains name := by
      funext name
      rw [Bool.eq_iff_iff]
      simp [hseen name]
    dsimp only
    rw [hmissing]
    cases record.required.find? fun name => !seen'.contains name with
    | none => exact .ok ha
    | some missing => exact .error _ _
  | _, _, .trans hd hd' => .trans h.match_trans (decode hd) (decode hd')

end Separate

end Record

end Json

end SceneScript
