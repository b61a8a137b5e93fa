import Mathlib.Data.List.Basic
import Mathlib.Data.List.Pairwise
import Mathlib.Data.List.Perm.Basic
import SceneScript.Dict

/-!
# Looking up names in dictionaries

A dictionary is determined by what it answers (`Dict.ext_get?`), and setting a name changes only
the answer for that name (`Dict.get?_insert`). Entries that are in order already are kept as they
are when a dictionary is made from them (`Dict.entries_ofList`).

* `Dict.filled`: what stands under the names of a dictionary whose places can be empty.
-/

namespace SceneScript.Dict

variable {α β : Type}

/-! ## Entries and look-up -/

theorem lookup_cons_eq_ite (name : String) (e : String × α) (l : List (String × α)) :
    (e :: l).lookup name = if name = e.1 then some e.2 else l.lookup name := by
  by_cases h : name = e.1
  · rw [List.lookup_cons, beq_iff_eq.2 h, if_pos h]
  · rw [List.lookup_cons, beq_eq_false_iff_ne.2 h, if_neg h]

theorem get?_eq_some_iff {d : Dict α} {key : String} {value : α} :
    d.get? key = some value ↔ (key, value) ∈ d.entries := by
  obtain ⟨entries, sorted⟩ := d
  simp only [get?]
  induction entries with
  | nil => simp
  | cons e rest ih =>
    obtain ⟨hlt, hrest⟩ := List.pairwise_cons.1 sorted
    rw [lookup_cons_eq_ite, List.mem_cons]
    by_cases hkey : key = e.1
    · subst hkey
      have hnot : (e.1, value) ∉ rest := fun h => String.lt_irrefl e.1 (hlt (e.1, value) h)
      simp [hnot, Prod.ext_iff, eq_comm]
    · have hne : (key, value) ≠ e := fun h => hkey (congrArg Prod.fst h)
      simp [hkey, hne, ih hrest]

theorem get?_eq_none_iff {d : Dict α} {key : String} : d.get? key = none ↔ key ∉ d.keys := by
  rw [Option.eq_none_iff_forall_ne_some]
  simp [get?_eq_some_iff, keys]

theorem isSome_get?_iff {d : Dict α} {key : String} : (d.get? key).isSome ↔ key ∈ d.keys := by
  rw [Option.isSome_iff_ne_none, ne_eq, get?_eq_none_iff, not_not]

theorem nodup_of_sorted {l : List (String × α)} (h : l.Pairwise fun a b => a.1 < b.1) :
    (l.map Prod.fst).Nodup := by
  refine List.pairwise_map.2 (h.imp fun {a b} h heq => ?_)
  rw [heq] at h
  exact String.lt_irrefl _ h

theorem nodup_keys (d : Dict α) : d.keys.Nodup := nodup_of_sorted d.sorted

/-- Entries in increasing order are determined by which of them there are. -/
theorem eq_of_sorted_of_mem_iff : ∀ {l m : List (String × α)},
    l.Pairwise (fun a b => a.1 < b.1) → m.Pairwise (fun a b => a.1 < b.1) →
      (∀ e, e ∈ l ↔ e ∈ m) → l = m
  | [], [], _, _, _ => rfl
  | [], e :: m, _, _, h => by simpa using h e
  | e :: l, [], _, _, h => by simpa using h e
  | e :: l, f :: m, hl, hm, h => by
    obtain ⟨hel, hl'⟩ := List.pairwise_cons.1 hl
    obtain ⟨hfm, hm'⟩ := List.pairwise_cons.1 hm
    have hef : e = f := by
      rcases List.mem_cons.1 ((h e).1 List.mem_cons_self) with he | he
      · exact he
      rcases List.mem_cons.1 ((h f).2 List.mem_cons_self) with hf | hf
      · exact hf.symm
      exact absurd (String.lt_trans (hel f hf) (hfm e he)) (String.lt_irrefl _)
    subst hef
    have hne : ∀ {g}, (g ∈ l ∨ g ∈ m) → g ≠ e := by
      rintro g (hg | hg) rfl
      · exact String.lt_irrefl _ (hel _ hg)
      · exact String.lt_irrefl _ (hfm _ hg)
    refine congrArg (e :: ·) (eq_of_sorted_of_mem_iff hl' hm' fun g => ⟨?_, ?_⟩)
    · intro hg
      exact (List.mem_cons.1 ((h g).1 (List.mem_cons_of_mem _ hg))).resolve_left (hne (.inl hg))
    · intro hg
      exact (List.mem_cons.1 ((h g).2 (List.mem_cons_of_mem _ hg))).resolve_left (hne (.inr hg))

/-- Dictionaries that answer alike are equal. -/
@[ext]
theorem ext_get? {d e : Dict α} (h : ∀ key, d.get? key = e.get? key) : d = e := by
  have hentries : d.entries = e.entries :=
    eq_of_sorted_of_mem_iff d.sorted e.sorted fun entry => by
      have hd : d.get? entry.1 = some entry.2 ↔ entry ∈ d.entries := get?_eq_some_iff
      rw [← hd, h, get?_eq_some_iff]
  cases d
  cases e
  simp only at hentries
  subst hentries
  rfl

/-! ## Setting a value -/

theorem lookup_insertSorted (key name : String) (value : α) : ∀ l : List (String × α),
    (insertSorted key value l).lookup name = if name = key then some value else l.lookup name
  | [] => by rw [insertSorted, lookup_cons_eq_ite]
  | e :: rest => by
    rw [insertSorted]
    by_cases hlt : key < e.1
    · rw [if_pos hlt, lookup_cons_eq_ite]
    · by_cases heq : key = e.1
      · rw [if_neg hlt, if_pos heq, lookup_cons_eq_ite, lookup_cons_eq_ite name e, ← heq]
        split_ifs <;> rfl
      · rw [if_neg hlt, if_neg heq, lookup_cons_eq_ite, lookup_insertSorted key name value rest,
          lookup_cons_eq_ite name e]
        by_cases h : name = key
        · rw [if_pos h, if_neg (h ▸ heq), if_pos h]
        · rw [if_neg h, if_neg h]

@[simp] theorem get?_insert (d : Dict α) (key name : String) (value : α) :
    (d.insert key value).get? name = if name = key then some value else d.get? name :=
  lookup_insertSorted key name value d.entries

@[simp] theorem get?_empty (name : String) : (empty : Dict α).get? name = none := rfl

@[simp] theorem mem_keys_insert (d : Dict α) (key name : String) (value : α) :
    name ∈ (d.insert key value).keys ↔ name = key ∨ name ∈ d.keys := by
  rw [← isSome_get?_iff, ← isSome_get?_iff, get?_insert]
  split_ifs with h <;> simp [h]

/-- Setting a name that is there already keeps the names. -/
theorem keys_insert_of_mem {d : Dict α} {key : String} (h : key ∈ d.keys) (value : α) :
    (d.insert key value).keys = d.keys := by
  obtain ⟨entries, sorted⟩ := d
  simp only [keys, insert] at h ⊢
  induction entries with
  | nil => simp at h
  | cons e rest ih =>
    obtain ⟨hlt, hrest⟩ := List.pairwise_cons.1 sorted
    rw [insertSorted]
    rw [List.map_cons, List.mem_cons] at h
    split_ifs with h₁ h₂
    · rcases h with h | h
      · exact absurd (h ▸ h₁) (String.lt_irrefl _)
      · obtain ⟨f, hf, rfl⟩ := List.mem_map.1 h
        exact absurd (String.lt_trans h₁ (hlt f hf)) (String.lt_irrefl _)
    · simp [h₂]
    · rw [List.map_cons, ih hrest (h.resolve_left h₂), List.map_cons]

/-! ## Making dictionaries -/

theorem get?_foldl_insert (name : String) : ∀ (l : List (String × α)) (d : Dict α),
    (l.foldl (fun d entry => d.insert entry.1 entry.2) d).get? name =
      (l.reverse.lookup name).or (d.get? name)
  | [], d => by simp
  | e :: rest, d => by
    rw [List.foldl_cons, get?_foldl_insert name rest, get?_insert, List.reverse_cons,
      List.lookup_append, lookup_cons_eq_ite, List.lookup_nil, Option.or_assoc]
    split_ifs <;> simp

/-- Of the entries of one name the last one counts. -/
theorem get?_ofList (l : List (String × α)) (name : String) :
    (ofList l).get? name = l.reverse.lookup name := by
  rw [ofList, get?_foldl_insert, get?_empty, Option.or_none]

theorem mem_keys_ofList {l : List (String × α)} {name : String} :
    name ∈ (ofList l).keys ↔ name ∈ l.map Prod.fst := by
  rw [← isSome_get?_iff, get?_ofList, ← List.mem_reverse, ← List.map_reverse]
  induction l.reverse with
  | nil => simp
  | cons e rest ih =>
    rw [lookup_cons_eq_ite, List.map_cons, List.mem_cons, ← ih]
    by_cases h : name = e.1 <;> simp [h]

theorem insertSorted_of_lt {key : String} (value : α) : ∀ {l : List (String × α)},
    (∀ e ∈ l, e.1 < key) → insertSorted key value l = l ++ [(key, value)]
  | [], _ => rfl
  | e :: rest, h => by
    have he : e.1 < key := h e List.mem_cons_self
    have hlt : ¬ key < e.1 := fun hlt => String.lt_irrefl _ (String.lt_trans he hlt)
    have hne : key ≠ e.1 := fun heq => String.lt_irrefl _ (heq ▸ he)
    rw [insertSorted, if_neg hlt, if_neg hne,
      insertSorted_of_lt value fun f hf => h f (List.mem_cons_of_mem _ hf), List.cons_append]

theorem entries_foldl_insert : ∀ (l : List (String × α)) (d : Dict α),
    (d.entries ++ l).Pairwise (fun a b => a.1 < b.1) →
      (l.foldl (fun d entry => d.insert entry.1 entry.2) d).entries = d.entries ++ l
  | [], d, _ => by simp
  | e :: rest, d, h => by
    have hlt : ∀ f ∈ d.entries, f.1 < e.1 := fun f hf =>
      (List.pairwise_append.1 h).2.2 f hf e List.mem_cons_self
    have hinsert : (d.insert e.1 e.2).entries = d.entries ++ [e] := insertSorted_of_lt e.2 hlt
    rw [List.foldl_cons, entries_foldl_insert rest, hinsert, List.append_assoc,
      List.singleton_append]
    rwa [hinsert, List.append_assoc, List.singleton_append]

/-- Entries in increasing order of their names are those of the dictionary made from them. -/
theorem entries_ofList {l : List (String × α)} (hl : l.Pairwise fun a b => a.1 < b.1) :
    (ofList l).entries = l :=
  entries_foldl_insert l empty hl

theorem mem_of_lookup {κ : Type} [BEq κ] [LawfulBEq κ] {l : List (κ × α)} {key : κ} {a : α}
    (h : l.lookup key = some a) : (key, a) ∈ l := by
  obtain ⟨before, after, hl, -⟩ := List.lookup_eq_some_iff.1 h
  rw [hl]
  exact List.mem_append_cons_self

/-- Setting names one after another. -/
def insertAll (d : Dict α) (l : List (String × α)) : Dict α :=
  l.foldl (fun d entry => d.insert entry.1 entry.2) d

theorem lookup_eq_none {l : List (String × α)} {name : String} (h : name ∉ l.map Prod.fst) :
    l.lookup name = none := by
  rw [List.lookup_eq_none_iff]
  intro entry hentry
  have hne : name ≠ entry.1 := fun heq => h (List.mem_map.2 ⟨entry, hentry, heq.symm⟩)
  simpa using hne

theorem lookup_reverse_of_nodup (name : String) : ∀ {l : List (String × α)},
    (l.map Prod.fst).Nodup → l.reverse.lookup name = l.lookup name
  | [], _ => rfl
  | e :: rest, h => by
    rw [List.map_cons, List.nodup_cons] at h
    rw [List.reverse_cons, List.lookup_append, lookup_reverse_of_nodup name h.2, lookup_cons_eq_ite,
      lookup_cons_eq_ite name e, List.lookup_nil]
    by_cases hname : name = e.1
    · have hnone : rest.lookup name = none := lookup_eq_none (hname ▸ h.1)
      rw [hnone, if_pos hname, Option.none_or]
    · rw [if_neg hname, if_neg hname, Option.or_none]

theorem lookup_filter_fst (p : String → Bool) (name : String) : ∀ l : List (String × α),
    (l.filter fun entry => p entry.1).lookup name = if p name then l.lookup name else none
  | [] => by simp
  | e :: rest => by
    rw [List.filter_cons, lookup_cons_eq_ite name e]
    by_cases hname : name = e.1
    · subst hname
      by_cases hp : p e.1
      · rw [if_pos hp, if_pos hp, if_pos rfl, lookup_cons_eq_ite, if_pos rfl]
      · rw [if_neg hp, if_neg hp, lookup_filter_fst p e.1 rest, if_neg hp]
    · rw [if_neg hname, ← lookup_filter_fst p name rest]
      split_ifs
      · rw [lookup_cons_eq_ite, if_neg hname]
      · rfl

theorem get?_insertAll {l : List (String × α)} (hl : (l.map Prod.fst).Nodup) (d : Dict α)
    (name : String) : (d.insertAll l).get? name = (l.lookup name).or (d.get? name) := by
  rw [insertAll, get?_foldl_insert, lookup_reverse_of_nodup name hl]

theorem keys_insertAll : ∀ {l : List (String × α)} {d : Dict α}, (∀ entry ∈ l, entry.1 ∈ d.keys) →
    (d.insertAll l).keys = d.keys
  | [], _, _ => rfl
  | e :: rest, d, h => by
    have he : (d.insert e.1 e.2).keys = d.keys := keys_insert_of_mem (h e List.mem_cons_self) e.2
    have hrest : ((d.insert e.1 e.2).insertAll rest).keys = (d.insert e.1 e.2).keys :=
      keys_insertAll fun f hf => he ▸ h f (List.mem_cons_of_mem _ hf)
    exact hrest.trans he

/-- The dictionary with every value replaced by one made from its name and itself. -/
def mapEntries (f : String → α → β) (d : Dict α) : Dict β :=
  ⟨d.entries.map fun entry => (entry.1, f entry.1 entry.2), List.pairwise_map.2 d.sorted⟩

theorem lookup_map_entry (f : String → α → β) (name : String) (l : List (String × α)) :
    (l.map fun entry => (entry.1, f entry.1 entry.2)).lookup name =
      (l.lookup name).map (f name) := by
  induction l with
  | nil => rfl
  | cons e rest ih =>
    rw [List.map_cons, lookup_cons_eq_ite, lookup_cons_eq_ite]
    split_ifs with h
    · rw [h, Option.map_some]
    · exact ih

theorem get?_mapEntries (f : String → α → β) (d : Dict α) (name : String) :
    (d.mapEntries f).get? name = (d.get? name).map (f name) :=
  lookup_map_entry f name d.entries

theorem lookup_map_snd (f : α → β) (name : String) (l : List (String × α)) :
    (l.map fun entry => (entry.1, f entry.2)).lookup name = (l.lookup name).map f :=
  lookup_map_entry (fun _ => f) name l

theorem ofList_map_snd (f : α → β) (l : List (String × α)) :
    ofList (l.map fun entry => (entry.1, f entry.2)) =
      (ofList l).mapEntries fun _ => f := by
  refine ext_get? fun name => ?_
  rw [get?_ofList, ← List.map_reverse, lookup_map_snd, get?_mapEntries, get?_ofList]

/-- Names can be exchanged if no other one becomes the one that is looked up. -/
theorem lookup_map_fst {rename : String → String} {key : String} {l : List (String × α)}
    (h : ∀ entry ∈ l, rename entry.1 = rename key → entry.1 = key) :
    (l.map fun entry => (rename entry.1, entry.2)).lookup (rename key) = l.lookup key := by
  induction l with
  | nil => rfl
  | cons e rest ih =>
    rw [List.forall_mem_cons] at h
    rw [List.map_cons, lookup_cons_eq_ite, lookup_cons_eq_ite, ih h.2]
    have hkey : rename key = rename e.1 ↔ key = e.1 :=
      ⟨fun heq => (h.1 heq.symm).symm, congrArg rename⟩
    simp only [hkey]

/-- Values can be dropped from entries of different names. -/
theorem lookup_filterMap_snd (f : α → Option β) (name : String) {l : List (String × α)}
    (hl : (l.map Prod.fst).Nodup) :
    (l.filterMap fun entry => (f entry.2).map fun b => (entry.1, b)).lookup name =
      (l.lookup name).bind f := by
  induction l with
  | nil => rfl
  | cons e rest ih =>
    rw [List.map_cons, List.nodup_cons] at hl
    rw [lookup_cons_eq_ite, List.filterMap_cons]
    by_cases hname : name = e.1
    · have hnone : rest.lookup name = none := lookup_eq_none (hname ▸ hl.1)
      have hih := ih hl.2
      rw [hnone] at hih
      rw [if_pos hname, Option.bind_some]
      cases f e.2 with
      | none => exact hih
      | some b => rw [Option.map_some, lookup_cons_eq_ite, if_pos hname]
    · rw [if_neg hname, ← ih hl.2]
      cases f e.2 with
      | none => rfl
      | some b => rw [Option.map_some, lookup_cons_eq_ite, if_neg hname]

theorem map_fst_filterMap_snd_sublist (f : α → Option β) (l : List (String × α)) :
    ((l.filterMap fun entry => (f entry.2).map fun b => (entry.1, b)).map Prod.fst).Sublist
      (l.map Prod.fst) := by
  induction l with
  | nil => exact List.Sublist.refl _
  | cons e rest ih =>
    rw [List.filterMap_cons]
    cases f e.2 with
    | none => exact ih.cons e.1
    | some b => exact ih.cons_cons e.1

theorem filterMap_insertSorted {key : String} {value : α} {f : String × α → Option β}
    (hf : f (key, value) = none) {l : List (String × α)} (hl : l.lookup key = none) :
    (insertSorted key value l).filterMap f = l.filterMap f := by
  induction l with
  | nil => rw [insertSorted, List.filterMap_cons_none hf]
  | cons e rest ih =>
    rw [lookup_cons_eq_ite] at hl
    by_cases hkey : key = e.1
    · rw [if_pos hkey] at hl
      cases hl
    · rw [if_neg hkey] at hl
      rw [insertSorted, if_neg hkey]
      split_ifs
      · rw [List.filterMap_cons_none hf]
      · rw [List.filterMap_cons, List.filterMap_cons, ih hl]

/-- A new entry does not count where nothing is made from it. -/
theorem filterMap_entries_insert {d : Dict α} {key : String} (h : d.get? key = none) {value : α}
    {f : String × α → Option β} (hf : f (key, value) = none) :
    (d.insert key value).entries.filterMap f = d.entries.filterMap f :=
  filterMap_insertSorted hf h

/-- What is made from the values of a dictionary is different if nothing is made under two names. -/
theorem nodup_filterMap_entries_iff {d : Dict α} {f : α → Option β} :
    (d.entries.filterMap fun entry => f entry.2).Nodup ↔ ∀ key key' b,
      (d.get? key).bind f = some b → (d.get? key').bind f = some b → key = key' := by
  have hsymm : Std.Symm fun e e' : String × α => ∀ b, f e.2 = some b → f e'.2 = some b → e = e' :=
    ⟨fun _ _ h b hb hb' => (h b hb' hb).symm⟩
  rw [List.Nodup, List.pairwise_filterMap]
  constructor
  · intro h key key' b hb hb'
    obtain ⟨a, ha, hb⟩ := Option.bind_eq_some_iff.1 hb
    obtain ⟨a', ha', hb'⟩ := Option.bind_eq_some_iff.1 hb'
    have hpairs : d.entries.Pairwise fun e e' =>
        ∀ b, f e.2 = some b → f e'.2 = some b → e = e' :=
      h.imp fun hne b hb hb' => absurd rfl (hne b hb b hb')
    exact congrArg Prod.fst (hpairs.forall_of_forall (fun _ _ _ _ _ => rfl)
      (get?_eq_some_iff.1 ha) (get?_eq_some_iff.1 ha') b hb hb')
  · intro h
    refine d.sorted.imp_of_mem fun {e e'} he he' hlt b hb b' hb' heq => ?_
    subst heq
    have hkey : e.1 = e'.1 := by
      refine h e.1 e'.1 b ?_ ?_
      · rw [get?_eq_some_iff.2 he, Option.bind_some, hb]
      · rw [get?_eq_some_iff.2 he', Option.bind_some, hb']
    rw [hkey] at hlt
    exact String.lt_irrefl _ hlt

/-! ## Places that can be empty -/

theorem entries_eq_map_keys (d : Dict (Option α)) :
    d.entries = d.keys.map fun name => (name, (d.get? name).join) := by
  rw [keys, List.map_map]
  refine (List.map_id _).symm.trans (List.map_congr_left fun entry hentry => ?_)
  have hget : d.get? entry.1 = some entry.2 := get?_eq_some_iff.2 hentry
  simp [hget]

/-- What stands at the places that are not empty. -/
def filled (d : Dict (Option α)) : List α := d.entries.filterMap Prod.snd

theorem mem_filled_iff {d : Dict (Option α)} {a : α} :
    a ∈ d.filled ↔ ∃ name, (d.get? name).join = some a := by
  simp only [filled, List.mem_filterMap, Option.join_eq_some_iff, get?_eq_some_iff]
  constructor
  · rintro ⟨⟨name, value⟩, hmem, rfl⟩
    exact ⟨name, hmem⟩
  · rintro ⟨name, hmem⟩
    exact ⟨_, hmem, rfl⟩

theorem perm_insertSorted (key : String) (value : Option α) : ∀ {l : List (String × Option α)},
    (l.lookup key).join = none →
      ((insertSorted key value l).filterMap Prod.snd).Perm (value.toList ++ l.filterMap Prod.snd)
  | [], _ => by cases value <;> simp [insertSorted]
  | e :: rest, h => by
    rw [lookup_cons_eq_ite] at h
    rw [insertSorted]
    split_ifs with hlt heq
    · cases value <;> simp [List.filterMap_cons]
    · rw [if_pos heq, Option.join_some] at h
      cases value <;> simp [h]
    · rw [if_neg heq] at h
      rw [List.filterMap_cons, List.filterMap_cons]
      cases he : e.2 with
      | none => exact perm_insertSorted key value h
      | some a =>
        refine ((perm_insertSorted key value h).cons a).trans ?_
        exact List.perm_middle.symm

theorem perm_filled_insert {d : Dict (Option α)} {key : String} (h : (d.get? key).join = none)
    (value : Option α) : (d.insert key value).filled.Perm (value.toList ++ d.filled) :=
  perm_insertSorted key value h

/-- Filling places that are empty adds just what is put there. -/
theorem perm_filled_insertAll : ∀ {l : List (String × Option α)} {d : Dict (Option α)},
    (l.map Prod.fst).Nodup → (∀ entry ∈ l, (d.get? entry.1).join = none) →
      (d.insertAll l).filled.Perm (l.filterMap Prod.snd ++ d.filled)
  | [], d, _, _ => List.Perm.refl _
  | e :: rest, d, hl, h => by
    rw [List.map_cons, List.nodup_cons] at hl
    have hrest : ∀ f ∈ rest, ((d.insert e.1 e.2).get? f.1).join = none := by
      intro f hf
      have hne : f.1 ≠ e.1 := fun heq => hl.1 (heq ▸ List.mem_map_of_mem hf)
      rw [get?_insert, if_neg hne]
      exact h f (List.mem_cons_of_mem _ hf)
    have hperm : ((d.insert e.1 e.2).insertAll rest).filled.Perm
        (rest.filterMap Prod.snd ++ (d.insert e.1 e.2).filled) := perm_filled_insertAll hl.2 hrest
    refine hperm.trans (((perm_filled_insert (h e List.mem_cons_self) e.2).append_left _).trans ?_)
    rw [List.filterMap_cons]
    cases e.2 with
    | none => simp
    | some a => simp

end SceneScript.Dict
