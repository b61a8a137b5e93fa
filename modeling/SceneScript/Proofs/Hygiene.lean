import Mathlib.Data.Finset.Card
import Mathlib.Data.List.Nodup
import SceneScript.Namespace
import SceneScript.Proofs.Dict

/-!
# Names that never meet

A namespace hands out names from three sources: the identifiers of declared variables, those of keys
that belong to no variable, and new names on demand. All of them avoid what is taken, so whatever is
asked for and in whatever order, no name is handed out for two purposes.

* `isIdentifier`: the texts that are identifiers.
* `firstFree_not_mem`: probing finds a name that is not in use.
* `Namespace.Call`, `Namespace.run`: calls on a namespace one after another, with their answers.
* `Namespace.Hygienic`: the invariant of such a run.
* **`Namespace.run_hygiene`**: what holds of all answers of a run.
-/

namespace SceneScript

/-! ## Identifiers -/

/-- The characters of an identifier: a letter, `_` or `$`, and then letters, digits, `_` and `$`. -/
def isIdentifierText : List Char → Bool
  | [] => false
  | c :: rest => isIdentifierChar c && !c.isDigit && rest.all isIdentifierChar

/-- The texts that are identifiers. -/
def isIdentifier (text : String) : Bool := isIdentifierText text.toList

theorem isIdentifierText_append {s t : List Char} (hs : isIdentifierText s = true)
    (ht : t.all isIdentifierChar = true) : isIdentifierText (s ++ t) = true := by
  cases s with
  | nil => cases hs
  | cons c rest =>
    simp only [isIdentifierText, List.cons_append, List.all_append, Bool.and_eq_true] at hs ⊢
    exact ⟨hs.1, hs.2, ht⟩

theorem isIdentifier_legalize (text : String) : isIdentifier (legalize text) = true := by
  have hmap : (text.toList.map fun c => if isIdentifierChar c then c else '_').all
      isIdentifierChar = true := by
    rw [List.all_eq_true]
    intro c hc
    obtain ⟨d, -, rfl⟩ := List.mem_map.1 hc
    split_ifs with hd
    · exact hd
    · decide
  rw [isIdentifier, legalize, String.toList_ofList, legalizeChars]
  generalize text.toList.map _ = chars at hmap
  cases chars with
  | nil => decide
  | cons c rest =>
    by_cases hdigit : c.isDigit = true
    · simp only [if_pos hdigit]
      exact isIdentifierText_append (by decide) hmap
    · simp only [if_neg hdigit]
      simp only [List.all_cons, Bool.and_eq_true] at hmap
      simp [isIdentifierText, hmap.1, hdigit, hmap.2]

theorem isIdentifierChar_of_mem {name : String} (h : isIdentifier name = true) :
    ∀ c ∈ name.toList, isIdentifierChar c = true := by
  rw [isIdentifier] at h
  cases hchars : name.toList with
  | nil => simp
  | cons d chars =>
    rw [hchars, isIdentifierText, Bool.and_eq_true, Bool.and_eq_true, List.all_eq_true] at h
    exact List.forall_mem_cons.2 ⟨h.1.1, h.2⟩

theorem isIdentifierChar_of_isDigit {c : Char} (h : c.isDigit = true) :
    isIdentifierChar c = true := by
  simp [isIdentifierChar, Char.isAlphanum, h]

theorem toList_numbered (stem : String) (n : Nat) :
    (numbered stem n).toList = stem.toList ++ '_' :: Nat.toDigits 10 n := by
  simp [numbered, Nat.toString_eq_repr]

theorem isIdentifier_numbered {stem : String} (h : isIdentifier stem = true) (n : Nat) :
    isIdentifier (numbered stem n) = true := by
  rw [isIdentifier, toList_numbered]
  refine isIdentifierText_append h ?_
  rw [List.all_cons, Bool.and_eq_true, List.all_eq_true]
  refine ⟨by decide, fun c hc => isIdentifierChar_of_isDigit ?_⟩
  exact Nat.isDigit_of_mem_toDigits (by omega) (by omega) hc

theorem isIdentifier_distinctCandidate {base : String} (h : isIdentifier base = true) (n : Nat) :
    isIdentifier (distinctCandidate base n) = true := by
  cases n with
  | zero => exact h
  | succ n => exact isIdentifier_numbered h _

/-! ## Probing -/

theorem numbered_injective (stem : String) : Function.Injective (numbered stem) := by
  intro m n h
  have hlist := congrArg String.toList h
  rw [toList_numbered, toList_numbered, List.append_cancel_left_eq, List.cons.injEq] at hlist
  have hvalue := congrArg (fun digits => Nat.ofDigitChars 10 digits 0) hlist.2
  simpa using hvalue

theorem freshCandidate_injective (stem : String) : Function.Injective (freshCandidate stem) :=
  fun _ _ h => Nat.succ.inj (numbered_injective stem h)

theorem numbered_ne (stem : String) (n : Nat) : numbered stem n ≠ stem := by
  intro h
  have hlength := congrArg (fun s => s.toList.length) h
  simp only [toList_numbered, List.length_append, List.length_cons] at hlength
  omega

theorem distinctCandidate_injective (base : String) :
    Function.Injective (distinctCandidate base) := by
  intro m n h
  cases m with
  | zero =>
    cases n with
    | zero => rfl
    | succ n => exact absurd h.symm (numbered_ne base _)
  | succ m =>
    cases n with
    | zero => exact absurd h (numbered_ne base _)
    | succ n =>
      have hmn : m + 2 = n + 2 := numbered_injective base h
      omega

/-- Probing answers the first candidate that is not in use, if the looks get as far. -/
theorem probe?_eq_some_iff {used : List String} {candidate : Nat → String} {name : String} :
    ∀ {looks n : Nat}, probe? used candidate looks n = some name ↔
      ∃ m < looks, candidate (n + m) = name ∧ candidate (n + m) ∉ used ∧
        ∀ i < m, candidate (n + i) ∈ used
  | 0, n => by simp [probe?]
  | looks + 1, n => by
    have hshift : ∀ i, n + 1 + i = n + (i + 1) := fun i => by omega
    rw [probe?]
    by_cases hused : candidate n ∈ used
    · rw [if_pos (by simpa using hused), probe?_eq_some_iff]
      simp only [hshift]
      constructor
      · rintro ⟨m, hm, hname, hfree, hbefore⟩
        refine ⟨m + 1, by omega, hname, hfree, fun i hi => ?_⟩
        cases i with
        | zero => exact hused
        | succ i => exact hbefore i (by omega)
      · rintro ⟨m, hm, hname, hfree, hbefore⟩
        cases m with
        | zero => exact absurd hused hfree
        | succ m =>
          exact ⟨m, by omega, hname, hfree, fun i hi => hbefore (i + 1) (by omega)⟩
    · rw [if_neg (by simpa using hused), Option.some.injEq]
      constructor
      · intro hname
        exact ⟨0, by omega, hname, hused, by simp⟩
      · rintro ⟨m, -, hname, -, hbefore⟩
        cases m with
        | zero => exact hname
        | succ m => exact absurd (hbefore 0 (by omega)) hused

/-- Probing runs out of looks only where all that it has looked at is in use. -/
theorem probe?_eq_none_iff {used : List String} {candidate : Nat → String} : ∀ {looks n : Nat},
    probe? used candidate looks n = none ↔ ∀ i < looks, candidate (n + i) ∈ used
  | 0, n => by simp [probe?]
  | looks + 1, n => by
    have hshift : ∀ i, n + 1 + i = n + (i + 1) := fun i => by omega
    rw [probe?]
    by_cases hused : candidate n ∈ used
    · rw [if_pos (by simpa using hused), probe?_eq_none_iff]
      simp only [hshift]
      constructor
      · intro hall i hi
        cases i with
        | zero => exact hused
        | succ i => exact hall i (by omega)
      · exact fun hall i hi => hall (i + 1) (by omega)
    · rw [if_neg (by simpa using hused)]
      constructor
      · intro h
        cases h
      · exact fun hall => absurd (hall 0 (by omega)) hused

theorem firstFree_of_probe? {used : List String} {candidate : Nat → String} {name : String}
    (h : probe? used candidate maxLooks 0 = some name) : firstFree used candidate = name := by
  rw [firstFree, h]

theorem firstFree_of_not_mem {used : List String} {candidate : Nat → String}
    (h : candidate 0 ∉ used) : firstFree used candidate = candidate 0 :=
  firstFree_of_probe? (probe?_eq_some_iff.2 ⟨0, by decide, rfl, h, by simp⟩)

/-- Different candidates that are all in use are no more than the names in use. -/
theorem le_card_of_forall_mem {used : List String} {candidate : Nat → String}
    (hinj : Function.Injective candidate) {m : Nat} (h : ∀ i < m, candidate i ∈ used) :
    m ≤ used.toFinset.card := by
  have hsubset : (Finset.range m).image candidate ⊆ used.toFinset := by
    intro name hname
    obtain ⟨i, hi, rfl⟩ := Finset.mem_image.1 hname
    exact List.mem_toFinset.2 (h i (Finset.mem_range.1 hi))
  calc m = ((Finset.range m).image candidate).card := by
        rw [Finset.card_image_of_injective _ hinj, Finset.card_range]
    _ ≤ used.toFinset.card := Finset.card_le_card hsubset

/-- One look more than there are names in use is enough, since the candidates are different. -/
theorem isSome_probe? (used : List String) {candidate : Nat → String}
    (hinj : Function.Injective candidate) :
    (probe? used candidate (used.length + 1) 0).isSome = true := by
  rw [Option.isSome_iff_ne_none, Ne, probe?_eq_none_iff]
  intro hall
  simp only [Nat.zero_add] at hall
  have hcard := (le_card_of_forall_mem hinj hall).trans used.toFinset_card_le
  omega

/-- Whether or not the counter gets as far, some number of looks finds the first free candidate. -/
theorem exists_probe?_eq_firstFree (used : List String) {candidate : Nat → String}
    (hinj : Function.Injective candidate) :
    ∃ looks, probe? used candidate looks 0 = some (firstFree used candidate) := by
  cases hcounted : probe? used candidate maxLooks 0 with
  | some name => exact ⟨maxLooks, by rw [hcounted, firstFree_of_probe? hcounted]⟩
  | none =>
    obtain ⟨name, hname⟩ := Option.isSome_iff_exists.1 (isSome_probe? used hinj)
    exact ⟨used.length + 1, by rw [firstFree, hcounted, hname, Option.getD_some]⟩

theorem firstFree_eq_candidate (used : List String) {candidate : Nat → String}
    (hinj : Function.Injective candidate) : ∃ m, firstFree used candidate = candidate m := by
  obtain ⟨looks, hprobe⟩ := exists_probe?_eq_firstFree used hinj
  obtain ⟨m, -, hname, -⟩ := probe?_eq_some_iff.1 hprobe
  exact ⟨_, hname.symm⟩

/-- **Probing finds a name that is not in use**, since there are more candidates than names. -/
theorem firstFree_not_mem (used : List String) {candidate : Nat → String}
    (hinj : Function.Injective candidate) : firstFree used candidate ∉ used := by
  obtain ⟨looks, hprobe⟩ := exists_probe?_eq_firstFree used hinj
  obtain ⟨m, -, hname, hfree, -⟩ := probe?_eq_some_iff.1 hprobe
  rwa [← hname]

namespace Namespace

/-! ## Runs -/

/-- A call on a namespace. -/
inductive Call where
  | resolve (key : String)
  | claim (stem : String)
  | propose (stem : String)
  | first (tag : SocketTag)

/-- What a call answers. -/
inductive Answer where
  | resolved (key identifier : String)
  | claimed (name : String)
  | proposed (name : String)
  | first (found : Option Variable)

/-- The answer of a call, and the namespace after it. -/
def answer (ns : Namespace) : Call → Answer × Namespace
  | .resolve key => (.resolved key (ns.resolve key).1, (ns.resolve key).2)
  | .claim stem => (.claimed (ns.claim stem).1, (ns.claim stem).2)
  | .propose stem => (.proposed (ns.uniqueName stem), ns)
  | .first tag => (.first (ns.firstOfTag? tag), ns)

/-- The answers of calls one after another, and the namespace after them. -/
def run (ns : Namespace) : List Call → List Answer × Namespace
  | [] => ([], ns)
  | call :: rest =>
    ((ns.answer call).1 :: ((ns.answer call).2.run rest).1, ((ns.answer call).2.run rest).2)

/-- The name that an answer claims. -/
def Answer.claimed? : Answer → Option String
  | .claimed name => some name
  | _ => none

/-- The invariant of a run in which the names `claimed` were claimed: no two names that were handed
out are equal, all of them are taken, none is reserved, those of keys are identifiers, and those
that were claimed are not the names of variables. -/
structure Hygienic (ns : Namespace) (claimed : List String) : Prop where
  distinct : (ns.bound.map Prod.snd ++ claimed).Nodup
  taken : ∀ name ∈ ns.bound.map Prod.snd ++ claimed, name ∈ ns.taken
  not_reserved : ∀ name ∈ ns.bound.map Prod.snd ++ claimed, name ∉ ns.reserved
  identifiers : ∀ entry ∈ ns.bound, isIdentifier entry.2 = true
  not_declared : ∀ name ∈ claimed, name ∉ ns.declaredNames

variable {ns : Namespace} {claimed : List String} {key name : String}

/-! ## Steps -/

theorem bind_fst_not_mem (ns : Namespace) (key name : String) :
    (ns.bind key name).1 ∉ ns.taken ∧ (ns.bind key name).1 ∉ ns.reserved := by
  have h := firstFree_not_mem (ns.taken ++ ns.reserved)
    (distinctCandidate_injective (legalize name))
  rwa [List.mem_append, not_or] at h

theorem isIdentifier_bind (ns : Namespace) (key name : String) :
    isIdentifier (ns.bind key name).1 = true := by
  obtain ⟨m, hm⟩ :=
    firstFree_eq_candidate (ns.taken ++ ns.reserved) (distinctCandidate_injective (legalize name))
  rw [bind, hm]
  exact isIdentifier_distinctCandidate (isIdentifier_legalize name) m

theorem claim_fst_not_mem (stem : String) : (ns.claim stem).1 ∉ ns.declaredNames ∧
    (ns.claim stem).1 ∉ ns.taken ∧ (ns.claim stem).1 ∉ ns.reserved := by
  have h := firstFree_not_mem (ns.declaredNames ++ ns.taken ++ ns.reserved)
    (freshCandidate_injective stem)
  rwa [List.mem_append, List.mem_append, not_or, not_or, and_assoc] at h

theorem Hygienic.bind (h : ns.Hygienic claimed) (key name : String) :
    (ns.bind key name).2.Hygienic claimed where
  distinct := by
    have hnew : (ns.bind key name).1 ∉ ns.bound.map Prod.snd ++ claimed :=
      fun hmem => (bind_fst_not_mem ns key name).1 (h.taken _ hmem)
    exact List.nodup_cons.2 ⟨hnew, h.distinct⟩
  taken := List.forall_mem_cons.2
    ⟨List.mem_cons_self, fun other hother => List.mem_cons_of_mem _ (h.taken other hother)⟩
  not_reserved := List.forall_mem_cons.2 ⟨(bind_fst_not_mem ns key name).2, h.not_reserved⟩
  identifiers := List.forall_mem_cons.2 ⟨isIdentifier_bind ns key name, h.identifiers⟩
  not_declared := h.not_declared

theorem Hygienic.resolve (h : ns.Hygienic claimed) (key : String) :
    (ns.resolve key).2.Hygienic claimed := by
  unfold Namespace.resolve
  split
  · exact h
  · exact h.bind key key

theorem Hygienic.claim (h : ns.Hygienic claimed) (stem : String) :
    (ns.claim stem).2.Hygienic ((ns.claim stem).1 :: claimed) where
  distinct := by
    have hnew : (ns.claim stem).1 ∉ ns.bound.map Prod.snd ++ claimed :=
      fun hmem => (claim_fst_not_mem stem).2.1 (h.taken _ hmem)
    exact List.nodup_middle.2 (List.nodup_cons.2 ⟨hnew, h.distinct⟩)
  taken := by
    intro other hother
    rcases List.mem_cons.1 (List.perm_middle.mem_iff.1 hother) with rfl | hother
    · exact List.mem_cons_self
    · exact List.mem_cons_of_mem _ (h.taken other hother)
  not_reserved := by
    intro other hother
    rcases List.mem_cons.1 (List.perm_middle.mem_iff.1 hother) with rfl | hother
    · exact (claim_fst_not_mem stem).2.2
    · exact h.not_reserved other hother
  identifiers := h.identifiers
  not_declared := List.forall_mem_cons.2 ⟨(claim_fst_not_mem stem).1, h.not_declared⟩

theorem lookup_resolve (ns : Namespace) (key : String) :
    (ns.resolve key).2.bound.lookup key = some (ns.resolve key).1 := by
  unfold Namespace.resolve
  split
  · assumption
  · simp [Namespace.bind]

/-- An identifier stays with its key. -/
theorem lookup_answer {identifier : String} (h : ns.bound.lookup key = some identifier)
    (call : Call) : (ns.answer call).2.bound.lookup key = some identifier := by
  cases call with
  | resolve other =>
    simp only [answer, Namespace.resolve]
    split
    · exact h
    · next hother =>
      have hne : key ≠ other := by
        rintro rfl
        rw [h] at hother
        cases hother
      rw [Namespace.bind, List.lookup_cons, beq_eq_false_iff_ne.2 hne]
      exact h
  | claim stem => exact h
  | propose stem => exact h
  | first tag => exact h

theorem answer_declared (call : Call) : (ns.answer call).2.declared = ns.declared := by
  cases call with
  | resolve key =>
    simp only [answer, Namespace.resolve]
    split <;> rfl
  | claim stem => rfl
  | propose stem => rfl
  | first tag => rfl

theorem answer_runtime (call : Call) : (ns.answer call).2.runtime = ns.runtime := by
  cases call with
  | resolve key =>
    simp only [answer, Namespace.resolve]
    split <;> rfl
  | claim stem => rfl
  | propose stem => rfl
  | first tag => rfl

theorem Hygienic.answer (h : ns.Hygienic claimed) (call : Call) :
    (ns.answer call).2.Hygienic ((ns.answer call).1.claimed?.toList ++ claimed) := by
  cases call with
  | resolve key => exact h.resolve key
  | claim stem => exact h.claim stem
  | propose stem => exact h
  | first tag => exact h

/-! ## Whole runs -/

theorem lookup_run {identifier : String} : ∀ (calls : List Call) {ns : Namespace},
    ns.bound.lookup key = some identifier → (ns.run calls).2.bound.lookup key = some identifier
  | [], _, h => h
  | call :: rest, _, h => lookup_run rest (lookup_answer h call)

/-- A key that has an identifier keeps it, whatever is asked for. -/
theorem resolve_run (calls : List Call) (h : (ns.bound.lookup key).isSome = true) :
    ((ns.run calls).2.resolve key).1 = (ns.resolve key).1 := by
  obtain ⟨identifier, hidentifier⟩ := Option.isSome_iff_exists.1 h
  rw [Namespace.resolve, Namespace.resolve, hidentifier, lookup_run calls hidentifier]

theorem run_declared : ∀ (calls : List Call) {ns : Namespace},
    (ns.run calls).2.declared = ns.declared
  | [], _ => rfl
  | call :: rest, _ => (run_declared rest).trans (answer_declared call)

theorem run_runtime : ∀ (calls : List Call) {ns : Namespace},
    (ns.run calls).2.runtime = ns.runtime
  | [], _ => rfl
  | call :: rest, _ => (run_runtime rest).trans (answer_runtime call)

/-- The invariant holds at the end of a run, with all names that were claimed on the way. -/
theorem Hygienic.run : ∀ (calls : List Call) {ns : Namespace} {claimed : List String},
    ns.Hygienic claimed →
      (ns.run calls).2.Hygienic (((ns.run calls).1.filterMap Answer.claimed?).reverse ++ claimed)
  | [], _, _, h => h
  | call :: rest, ns, claimed, h => by
    have hrest := Hygienic.run rest (h.answer call)
    rw [Namespace.run, List.filterMap_cons]
    cases hclaimed : (ns.answer call).1.claimed? with
    | none => simpa [hclaimed] using hrest
    | some name => simpa [hclaimed] using hrest

/-- The identifier of a key in the answers is the one that the key has in the end. -/
theorem lookup_of_resolved {identifier : String} : ∀ (calls : List Call) {ns : Namespace},
    .resolved key identifier ∈ (ns.run calls).1 →
      (ns.run calls).2.bound.lookup key = some identifier
  | [], _, h => by simp [Namespace.run] at h
  | call :: rest, ns, h => by
    rw [Namespace.run, List.mem_cons] at h
    rcases h with h | h
    · cases call with
      | resolve other =>
        cases h
        exact lookup_run rest (lookup_resolve ns key)
      | claim stem => cases h
      | propose stem => cases h
      | first tag => cases h
    · exact lookup_of_resolved rest h

/-- Different keys have different identifiers. -/
theorem Hygienic.eq_of_lookup (h : ns.Hygienic claimed) {key' identifier : String}
    (hkey : ns.bound.lookup key = some identifier)
    (hkey' : ns.bound.lookup key' = some identifier) :
    key = key' := by
  have hnodup : (ns.bound.map Prod.snd).Nodup := (List.nodup_append.1 h.distinct).1
  exact congrArg Prod.fst
    (List.inj_on_of_nodup_map hnodup (Dict.mem_of_lookup hkey) (Dict.mem_of_lookup hkey') rfl)

theorem mem_bound_of_lookup {identifier : String} (h : ns.bound.lookup key = some identifier) :
    identifier ∈ ns.bound.map Prod.snd :=
  List.mem_map_of_mem (Dict.mem_of_lookup h)

/-! ## The namespace of declared variables -/

/-- The namespace after some variables got their identifiers. -/
def bindAll (ns : Namespace) (vars : List Variable) : Namespace :=
  vars.foldl (fun ns v => (ns.bind v.id v.name).2) ns

theorem Hygienic.bindAll : ∀ (vars : List Variable) {ns : Namespace}, ns.Hygienic claimed →
    (ns.bindAll vars).Hygienic claimed
  | [], _, h => h
  | v :: rest, _, h => Hygienic.bindAll rest (h.bind v.id v.name)

theorem isSome_lookup_bindAll {id : String} : ∀ (vars : List Variable) {ns : Namespace},
    (ns.bound.lookup id).isSome = true ∨ id ∈ vars.map Variable.id →
      ((ns.bindAll vars).bound.lookup id).isSome = true
  | [], _, h => h.resolve_right (by simp)
  | v :: rest, ns, h => by
    refine isSome_lookup_bindAll rest ?_
    have hbound : (ns.bind v.id v.name).2.bound = (v.id, (ns.bind v.id v.name).1) :: ns.bound := rfl
    rw [hbound, Dict.lookup_cons_eq_ite]
    by_cases hid : id = v.id
    · exact .inl (by rw [if_pos hid]; rfl)
    · rw [if_neg hid]
      rw [List.map_cons, List.mem_cons] at h
      exact h.imp_right fun hmem => hmem.resolve_left hid

theorem bindAll_declared : ∀ (vars : List Variable) {ns : Namespace},
    (ns.bindAll vars).declared = ns.declared
  | [], _ => rfl
  | _ :: rest, _ => bindAll_declared rest

theorem declared_ofVariables (declared : List Variable) (runtime : String) :
    (ofVariables declared runtime).declared = declared :=
  bindAll_declared declared

theorem bindAll_runtime : ∀ (vars : List Variable) {ns : Namespace},
    (ns.bindAll vars).runtime = ns.runtime
  | [], _ => rfl
  | _ :: rest, _ => bindAll_runtime rest

theorem hygienic_ofVariables (declared : List Variable) (runtime : String) :
    (ofVariables declared runtime).Hygienic [] :=
  Hygienic.bindAll declared
    { distinct := List.nodup_nil
      taken := by simp
      not_reserved := by simp
      identifiers := by simp
      not_declared := by simp }

/-- The answers of calls on the namespace of a workspace. -/
def answersOf (w : Workspace) (runtime : String) (calls : List Call) : List Answer :=
  ((ofVariables w.declared runtime).run calls).1

/-- **Names never meet.** Whatever is asked of the namespace of a workspace, and in whatever order:
a key always has the same identifier, and two keys never share one; a claimed name is neither
claimed again nor the identifier of a key nor the name of a variable; no name is reserved; the
identifiers of keys are identifiers; and those of variables do not depend on what was asked for
before. -/
theorem run_hygiene (w : Workspace) (runtime : String) (calls : List Call) :
    (∀ key key' identifier identifier', .resolved key identifier ∈ answersOf w runtime calls →
      .resolved key' identifier' ∈ answersOf w runtime calls →
        (key = key' ↔ identifier = identifier')) ∧
    ((answersOf w runtime calls).filterMap Answer.claimed?).Nodup ∧
    (∀ name, .claimed name ∈ answersOf w runtime calls →
      name ∉ w.declared.map Variable.name ∧ ∀ key, .resolved key name ∉ answersOf w runtime calls) ∧
    (∀ name, .claimed name ∈ answersOf w runtime calls ∨
        (∃ key, .resolved key name ∈ answersOf w runtime calls) →
      name ∉ reservedWords ∧ name ≠ runtime) ∧
    (∀ key identifier, .resolved key identifier ∈ answersOf w runtime calls →
      isIdentifier identifier = true) ∧
    ∀ v ∈ w.declared, (((ofVariables w.declared runtime).run calls).2.resolve v.id).1 =
      ((ofVariables w.declared runtime).resolve v.id).1 := by
  rw [answersOf]
  have hend := Hygienic.run calls (hygienic_ofVariables w.declared runtime)
  have hlookup : ∀ {key identifier : String},
      .resolved key identifier ∈ ((ofVariables w.declared runtime).run calls).1 →
        ((ofVariables w.declared runtime).run calls).2.bound.lookup key = some identifier :=
    lookup_of_resolved calls
  have hclaimed : ∀ {name : String},
      .claimed name ∈ ((ofVariables w.declared runtime).run calls).1 →
        name ∈ ((ofVariables w.declared runtime).run calls).1.filterMap Answer.claimed? :=
    fun h => List.mem_filterMap.2 ⟨_, h, rfl⟩
  have hdeclared : ((ofVariables w.declared runtime).run calls).2.declared = w.declared :=
    (run_declared calls).trans (bindAll_declared w.declared)
  have hruntime : ((ofVariables w.declared runtime).run calls).2.runtime = runtime :=
    (run_runtime calls).trans (bindAll_runtime w.declared)
  generalize hfirst : ofVariables w.declared runtime = first at *
  generalize hanswers : (first.run calls).1 = answers at *
  generalize hlast : (first.run calls).2 = last at *
  rw [List.append_nil] at hend
  refine ⟨?_, ?_, ?_, ?_, ?_, ?_⟩
  · intro key key' identifier identifier' h h'
    constructor
    · rintro rfl
      exact Option.some.inj ((hlookup h).symm.trans (hlookup h'))
    · rintro rfl
      exact hend.eq_of_lookup (hlookup h) (hlookup h')
  · exact List.nodup_reverse.1 (List.nodup_append.1 hend.distinct).2.1
  · intro name h
    have hmem := List.mem_reverse.2 (hclaimed h)
    refine ⟨?_, fun key h' => ?_⟩
    · have hnot := hend.not_declared name hmem
      rwa [declaredNames, hdeclared] at hnot
    · have hbound := mem_bound_of_lookup (hlookup h')
      exact (List.nodup_append.1 hend.distinct).2.2 name hbound name hmem rfl
  · intro name h
    have hmem : name ∈ last.bound.map Prod.snd ++ (answers.filterMap Answer.claimed?).reverse := by
      rcases h with h | ⟨key, h⟩
      · exact List.mem_append_right _ (List.mem_reverse.2 (hclaimed h))
      · exact List.mem_append_left _ (mem_bound_of_lookup (hlookup h))
    have hnot := hend.not_reserved name hmem
    rw [reserved, hruntime, List.mem_cons, not_or] at hnot
    exact hnot.symm
  · intro key identifier h
    exact hend.identifiers _ (Dict.mem_of_lookup (hlookup h))
  · intro v hv
    rw [← hlast, ← hfirst]
    exact resolve_run calls (isSome_lookup_bindAll w.declared (.inr (List.mem_map_of_mem hv)))

end Namespace

end SceneScript
