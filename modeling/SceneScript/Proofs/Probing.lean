import Mathlib.Order.Bounds.Basic
import SceneScript.Proofs.Hygiene

/-!
# Probing for names

A new name is found by looking at `stem_1`, `stem_2` and so on until one is not in use, the
identifier of a key by looking at `base`, `base_2`, `base_3` and so on. Nothing in such a search
says when to stop but its counter, and that overflows. The search ends before that, since the
candidates are all different and only so many names are in use, and it ends at the first candidate
that is free. So a number that becomes free is used again, and no number above the count of the
names in use plus one is ever tried. The counter overflows only where that count is beyond it.

* `EndsAt`: a search has found the first candidate that is free, in time.
* `Overflows`: a search has found all candidates in use that its counter can number.
* `overflows_or_exists_endsAt`: among different candidates there is no third case.
* `Namespace.Gains`: all that a new name changes.
* **`names_least_free`**: the searches of a namespace.
-/

namespace SceneScript

/-! ## How a search ends -/

/-- The numbers from `start` on whose candidates are not in use. -/
def freeFrom (used : List String) (candidate : Nat → String) (start : Nat) : Set Nat :=
  {n | start ≤ n ∧ candidate n ∉ used}

/-- A search that starts with number `start` ends at number `m`: the candidate of `m` is the first
one that is not in use, and it is found by as many looks as there are numbers up to `m`, and by
no fewer. The counter allows that many, and there are at most as many as names in use and one
more. -/
structure EndsAt (used : List String) (candidate : Nat → String) (start m : Nat) : Prop where
  least : IsLeast (freeFrom used candidate start) m
  finds : ∀ looks, probe? used candidate looks start =
    if m + 1 - start ≤ looks then some (candidate m) else none
  counted : m + 1 - start ≤ maxLooks
  looks : m + 1 - start ≤ used.toFinset.card + 1

/-- A search that starts with number `start` overflows: all that its counter can number is in use,
so more than two thousand million names are. -/
structure Overflows (used : List String) (candidate : Nat → String) (start : Nat) : Prop where
  exhausted : probe? used candidate maxLooks start = none
  mem_used : ∀ n, start ≤ n → n < start + maxLooks → candidate n ∈ used
  many : Nat.pow 2 31 - 2 ≤ used.toFinset.card

variable {used : List String} {candidate : Nat → String} {start m : Nat}

/-- A search ends at the least free number, however many looks it is given. -/
theorem probe?_of_isLeast (h : IsLeast (freeFrom used candidate start) m) (looks : Nat) :
    probe? used candidate looks start =
      if m + 1 - start ≤ looks then some (candidate m) else none := by
  obtain ⟨k, rfl⟩ := Nat.exists_eq_add_of_le h.1.1
  have hbefore : ∀ i < k, candidate (start + i) ∈ used := by
    intro i hi
    by_contra hfree
    have hle := h.2 ⟨Nat.le_add_right start i, hfree⟩
    omega
  split_ifs with hlooks
  · exact probe?_eq_some_iff.2 ⟨k, by omega, rfl, h.1.2, hbefore⟩
  · exact probe?_eq_none_iff.2 fun i hi => hbefore i (by omega)

/-- What is found has the least free number. -/
theorem exists_isLeast_of_probe? {looks : Nat} {name : String}
    (h : probe? used candidate looks start = some name) :
    ∃ m, IsLeast (freeFrom used candidate start) m ∧ candidate m = name ∧
      m + 1 - start ≤ looks := by
  obtain ⟨k, hk, hname, hfree, hbefore⟩ := probe?_eq_some_iff.1 h
  refine ⟨start + k, ⟨⟨Nat.le_add_right start k, hfree⟩, ?_⟩, hname, by omega⟩
  rintro n ⟨hle, hn⟩
  obtain ⟨i, rfl⟩ := Nat.exists_eq_add_of_le hle
  by_contra hlt
  exact hn (hbefore i (by omega))

/-- Candidates that are numbered from `start` on can as well be numbered from zero on. -/
theorem probe?_shift (looks n : Nat) : probe? used (fun i => candidate (i + start)) looks n =
    probe? used candidate looks (n + start) := by
  induction looks generalizing n with
  | zero => rfl
  | succ looks ih => rw [probe?, probe?, ih, Nat.add_right_comm]

/-- Among different candidates a search overflows, or it ends and `firstFree` is what it finds. -/
theorem overflows_or_exists_endsAt (used : List String) (hinj : Function.Injective candidate)
    (start : Nat) : Overflows used candidate start ∨
      ∃ m, EndsAt used candidate start m ∧
        firstFree used (fun n => candidate (n + start)) = candidate m := by
  have hshifted : Function.Injective fun n => candidate (start + n) :=
    fun _ _ h => Nat.add_left_cancel (hinj h)
  cases hprobe : probe? used candidate maxLooks start with
  | none =>
    have hused := probe?_eq_none_iff.1 hprobe
    refine .inl ⟨hprobe, fun n hle hlt => ?_, le_card_of_forall_mem hshifted hused⟩
    obtain ⟨i, rfl⟩ := Nat.exists_eq_add_of_le hle
    exact hused i (by omega)
  | some name =>
    obtain ⟨m, hleast, rfl, hcounted⟩ := exists_isLeast_of_probe? hprobe
    have hbefore : ∀ i < m - start, candidate (start + i) ∈ used := by
      intro i hi
      by_contra hfree
      have hle := hleast.2 ⟨Nat.le_add_right start i, hfree⟩
      omega
    have hcard := le_card_of_forall_mem hshifted hbefore
    refine .inr ⟨m, ⟨hleast, probe?_of_isLeast hleast, hcounted, by omega⟩, ?_⟩
    exact firstFree_of_probe? (by rw [probe?_shift, Nat.zero_add, hprobe])

theorem numbered_ne_zero (stem : String) {n : Nat} (h : 1 ≤ n) :
    numbered stem n ≠ numbered stem 0 := by
  intro heq
  have hzero := numbered_injective stem heq
  omega

/-! ## The searches of a namespace -/

namespace Namespace

/-- All that is new in the second namespace is a name: it is taken, and it is the identifier of the
key, if there is one. -/
structure Gains (ns : Namespace) (key? : Option String) (name : String) (ns' : Namespace) :
    Prop where
  declared : ns'.declared = ns.declared
  runtime : ns'.runtime = ns.runtime
  taken : ∀ other, other ∈ ns'.taken ↔ other = name ∨ other ∈ ns.taken
  bound : ∀ other, ns'.bound.lookup other =
    if key? = some other then some name else ns.bound.lookup other

theorem gains_claim (ns : Namespace) (stem : String) :
    ns.Gains none (ns.claim stem).1 (ns.claim stem).2 where
  declared := rfl
  runtime := rfl
  taken _ := List.mem_cons
  bound _ := rfl

theorem gains_bind (ns : Namespace) (key name : String) :
    ns.Gains (some key) (ns.bind key name).1 (ns.bind key name).2 where
  declared := rfl
  runtime := rfl
  taken _ := List.mem_cons
  bound other := by
    have hkey : some key = some other ↔ other = key := by rw [Option.some.injEq, eq_comm]
    simp only [hkey]
    exact Dict.lookup_cons_eq_ite other _ ns.bound

end Namespace

/-- **The searches for names end, and find the first name that is free**, unless there are as many
names in use as their counters can number. Whatever names are in use, a new name of a stem has the
least number from one on that is free, and never number zero. In every state of a namespace this is
so of the names that it proposes and claims, and the identifier of a key is the first of `base`,
`base_2`, `base_3` and so on that is neither taken nor reserved. The name that is handed out is all
that changes. -/
theorem names_least_free (stem key name : String) (used : List String) (ns : Namespace) :
    (Overflows used (numbered stem) 1 ∨ ∃ number, EndsAt used (numbered stem) 1 number ∧
      firstFree used (freshCandidate stem) = numbered stem number ∧
      firstFree used (freshCandidate stem) ≠ numbered stem 0) ∧
    (Overflows ns.declaredNames (numbered stem) 1 ∨
      ∃ number, EndsAt ns.declaredNames (numbered stem) 1 number ∧
        ns.uniqueName stem = numbered stem number) ∧
    (Overflows (ns.declaredNames ++ ns.taken ++ ns.reserved) (numbered stem) 1 ∨
      ∃ number, EndsAt (ns.declaredNames ++ ns.taken ++ ns.reserved) (numbered stem) 1 number ∧
        (ns.claim stem).1 = numbered stem number) ∧
    ns.Gains none (ns.claim stem).1 (ns.claim stem).2 ∧
    (Overflows (ns.taken ++ ns.reserved) (distinctCandidate (legalize name)) 0 ∨
      ∃ number, EndsAt (ns.taken ++ ns.reserved) (distinctCandidate (legalize name)) 0 number ∧
        (ns.bind key name).1 = distinctCandidate (legalize name) number) ∧
    ns.Gains (some key) (ns.bind key name).1 (ns.bind key name).2 := by
  have hfresh := fun used => overflows_or_exists_endsAt used (numbered_injective stem) 1
  have hfree : Overflows used (numbered stem) 1 ∨ ∃ number,
      EndsAt used (numbered stem) 1 number ∧
        firstFree used (freshCandidate stem) = numbered stem number ∧
        firstFree used (freshCandidate stem) ≠ numbered stem 0 := by
    rcases hfresh used with hoverflows | ⟨number, hends, hname⟩
    · exact .inl hoverflows
    · refine .inr ⟨number, hends, hname, ?_⟩
      exact fun hzero => numbered_ne_zero stem hends.least.1.1 (hname.symm.trans hzero)
  exact ⟨hfree, hfresh _, hfresh _, ns.gains_claim stem,
    overflows_or_exists_endsAt _ (distinctCandidate_injective _) 0, ns.gains_bind key name⟩

/-- A number that has become free is used again. -/
theorem names_least_free_shape : EndsAt ["shape_1", "shape_3"] (numbered "shape") 1 2 ∧
    firstFree ["shape_1", "shape_3"] (freshCandidate "shape") = "shape_2" := by
  have hname : firstFree ["shape_1", "shape_3"] (freshCandidate "shape") = numbered "shape" 2 := by
    decide
  obtain ⟨hoverflows | ⟨number, hends, hnumber, -⟩, -⟩ := names_least_free "shape" "id" "shape"
    ["shape_1", "shape_3"] { declared := [], runtime := "scene" }
  · have hcard : Nat.pow 2 31 - 2 ≤ 2 := hoverflows.many.trans (List.toFinset_card_le _)
    exact absurd hcard (by decide)
  · obtain rfl : number = 2 := numbered_injective "shape" (hnumber.symm.trans hname)
    exact ⟨hends, hname⟩

end SceneScript
