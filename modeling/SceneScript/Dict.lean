/-!
# Sorted dictionaries

A dictionary from names to values, listed in increasing order of the names. The order is the one
of the encoded bytes, which for text is the order of its code points. Since the entries are sorted,
two dictionaries that answer every look-up alike are equal.

* `Dict.insert`: sets the value of a name, replacing an earlier one.
* `Dict.get?`: the value of a name.
-/

namespace SceneScript

/-- Finitely many names with a value each, in increasing order of the names. -/
@[ext]
structure Dict (α : Type) where
  entries : List (String × α)
  sorted : entries.Pairwise fun a b => a.1 < b.1

namespace Dict

variable {α β : Type}

/-- The dictionary without entries. -/
def empty : Dict α := ⟨[], List.Pairwise.nil⟩

instance : Inhabited (Dict α) := ⟨empty⟩

instance : EmptyCollection (Dict α) := ⟨empty⟩

instance [DecidableEq α] : DecidableEq (Dict α) :=
  fun _ _ => decidable_of_iff _ Dict.ext_iff.symm

/-! ## Setting a value -/

/-- Puts an entry at its place in a sorted list, over an entry of the same name. -/
def insertSorted (key : String) (value : α) : List (String × α) → List (String × α)
  | [] => [(key, value)]
  | entry :: rest =>
    if key < entry.1 then (key, value) :: entry :: rest
    else if key = entry.1 then (key, value) :: rest
    else entry :: insertSorted key value rest

theorem mem_insertSorted {key : String} {value : α} {entry : String × α} :
    ∀ {l : List (String × α)}, entry ∈ insertSorted key value l → entry.1 = key ∨ entry ∈ l
  | [], h => by
    rw [insertSorted, List.mem_singleton] at h
    exact .inl (congrArg Prod.fst h)
  | e :: rest, h => by
    rw [insertSorted] at h
    split at h
    · rcases List.mem_cons.1 h with h | h
      · exact .inl (congrArg Prod.fst h)
      · exact .inr h
    · split at h
      · rcases List.mem_cons.1 h with h | h
        · exact .inl (congrArg Prod.fst h)
        · exact .inr (List.mem_cons_of_mem _ h)
      · rcases List.mem_cons.1 h with h | h
        · exact .inr (h ▸ List.mem_cons_self)
        · exact (mem_insertSorted h).imp id (List.mem_cons_of_mem _)

theorem sorted_insertSorted (key : String) (value : α) :
    ∀ {l : List (String × α)}, l.Pairwise (fun a b => a.1 < b.1) →
      (insertSorted key value l).Pairwise fun a b => a.1 < b.1
  | [], _ => List.pairwise_singleton _ _
  | e :: rest, h => by
    have ⟨he, hrest⟩ := List.pairwise_cons.1 h
    rw [insertSorted]
    split
    · next hlt =>
      refine List.pairwise_cons.2 ⟨fun b hb => ?_, h⟩
      rcases List.mem_cons.1 hb with rfl | hb
      · exact hlt
      · exact String.lt_trans hlt (he b hb)
    · next hlt =>
      split
      · next heq => exact List.pairwise_cons.2 ⟨fun b hb => heq ▸ he b hb, hrest⟩
      · next hne =>
        refine List.pairwise_cons.2 ⟨fun b hb => ?_, sorted_insertSorted key value hrest⟩
        rcases mem_insertSorted hb with hb | hb
        · rw [hb]
          exact String.not_le.1 fun hle => hne (String.le_antisymm hle (String.not_lt.1 hlt))
        · exact he b hb

/-- The dictionary with the value of one name set. -/
def insert (d : Dict α) (key : String) (value : α) : Dict α :=
  ⟨insertSorted key value d.entries, sorted_insertSorted key value d.sorted⟩

/-- Sets the values of a list of names from left to right, so that the last one of a name stays. -/
def ofList (entries : List (String × α)) : Dict α :=
  entries.foldl (fun d entry => d.insert entry.1 entry.2) empty

/-! ## Look-up -/

/-- The value of a name. -/
def get? (d : Dict α) (key : String) : Option α :=
  d.entries.lookup key

/-- The names, in increasing order. -/
def keys (d : Dict α) : List String :=
  d.entries.map Prod.fst

end Dict

end SceneScript
