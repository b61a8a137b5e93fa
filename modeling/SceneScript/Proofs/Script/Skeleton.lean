import Mathlib.Data.List.Forall2
import SceneScript.Proofs.Script.Code

/-!
# Skeletons of scripts

What is left of a script if the contents of its string literals are forgotten. A scan goes from left
to right and knows only quotes and backslashes; it finds the literals that were written, because
quotes inside of them are escaped, and it finds them in the same places if the texts in them are
other ones.

* `Skeleton`, `skeleton`: the text outside of literals, and how many literals there are.
* `SameOutside`: two texts that are the same outside of literals.
* **`SameOutside.skeleton_eq`**: such texts have the same skeleton.
* `SameOutside.append`, `SameOutside.intercalate`, `SameOutside.indent`: how code is put together.
-/

namespace SceneScript.Script

/-! ## Scanning -/

/-- Where a scan stands: outside of literals, in one, or in one behind a backslash. -/
inductive ScanMode where
  | outside
  | inside
  | escaped

/-- What is left of a text if the contents of its literals are forgotten. -/
structure Skeleton where
  /-- The text outside of literals: before the first one, between any two, and after the last. -/
  texts : List (List Char)
  /-- The number of literals. -/
  literals : Nat
deriving DecidableEq

namespace Skeleton

/-- A character in front of the first text. -/
def push (c : Char) (s : Skeleton) : Skeleton :=
  match s.texts with
  | [] => { s with texts := [[c]] }
  | text :: rest => { s with texts := (c :: text) :: rest }

/-- A literal in front of everything. -/
def quoted (s : Skeleton) : Skeleton := ⟨[] :: s.texts, s.literals + 1⟩

/-- Scans a text from left to right. -/
def scan : ScanMode → List Char → Skeleton
  | .outside, [] => ⟨[[]], 0⟩
  | .outside, c :: rest =>
    if c = '"' then (scan .inside rest).quoted else (scan .outside rest).push c
  | .inside, [] => ⟨[], 0⟩
  | .inside, c :: rest =>
    if c = '"' then scan .outside rest
    else if c = '\\' then scan .escaped rest
    else scan .inside rest
  | .escaped, [] => ⟨[], 0⟩
  | .escaped, _ :: rest => scan .inside rest

theorem scan_inside_append {s : List Char} (h : ∀ c ∈ s, c ≠ '"' ∧ c ≠ '\\') (rest : List Char) :
    scan .inside (s ++ rest) = scan .inside rest := by
  induction s with
  | nil => rfl
  | cons c s ih =>
    rw [List.forall_mem_cons] at h
    rw [List.cons_append, scan, if_neg h.1.1, if_neg h.1.2, ih h.2]

theorem scan_quoteChar (c : Char) (rest : List Char) :
    scan .inside (Text.quoteChar c ++ rest) = scan .inside rest := by
  have hdigit : ∀ d < 16, Nat.digitChar d ≠ '"' ∧ Nat.digitChar d ≠ '\\' := by decide
  have hquad : ∀ d ∈ Text.hexQuad c.toNat, d ≠ '"' ∧ d ≠ '\\' := by
    intro d hd
    obtain ⟨n, hn, rfl⟩ := List.mem_map.1 hd
    refine hdigit n ?_
    simp only [List.mem_cons, List.not_mem_nil, or_false] at hn
    omega
  unfold Text.quoteChar
  split_ifs with hquote hslash
  · simp [scan]
  · simp [scan]
  · simp [scan]
  · simp [scan]
  · simp [scan]
  · simp [scan, scan_inside_append hquad]
  · simp [scan, hquote, hslash]

/-- A literal is scanned as a literal, whatever text is in it. -/
theorem scan_quote (text : String) (rest : List Char) :
    scan .outside ((Text.quote text).toList ++ rest) = (scan .outside rest).quoted := by
  have hbody : ∀ chars : List Char, scan .inside (chars.flatMap Text.quoteChar ++ '"' :: rest) =
      scan .outside rest := by
    intro chars
    induction chars with
    | nil => simp [scan]
    | cons c chars ih => rw [List.flatMap_cons, List.append_assoc, scan_quoteChar, ih]
  rw [Text.quote, String.toList_ofList]
  simp [scan, hbody]

end Skeleton

/-- What is left of a script if the contents of its literals are forgotten. -/
def skeleton (script : String) : Skeleton := Skeleton.scan .outside script.toList

/-! ## Texts that are the same outside of literals -/

/-- Two lists of characters are the same outside of literals. -/
inductive SameOutsideChars : List Char → List Char → Prop
  | nil : SameOutsideChars [] []
  | plain {c : Char} {s t : List Char} : c ≠ '"' → SameOutsideChars s t →
    SameOutsideChars (c :: s) (c :: t)
  | literal (a b : String) {s t : List Char} : SameOutsideChars s t →
    SameOutsideChars ((Text.quote a).toList ++ s) ((Text.quote b).toList ++ t)

namespace SameOutsideChars

variable {s t s' t' : List Char}

theorem of_plain : ∀ {s : List Char}, (∀ c ∈ s, c ≠ '"') → SameOutsideChars s s
  | [], _ => .nil
  | c :: s, h => by
    rw [List.forall_mem_cons] at h
    exact .plain h.1 (of_plain h.2)

theorem append (h : SameOutsideChars s t) (h' : SameOutsideChars s' t') :
    SameOutsideChars (s ++ s') (t ++ t') := by
  induction h with
  | nil => exact h'
  | plain hc _ ih => exact .plain hc ih
  | literal a b _ ih =>
    rw [List.append_assoc, List.append_assoc]
    exact .literal a b ih

theorem scan_eq (h : SameOutsideChars s t) :
    Skeleton.scan .outside s = Skeleton.scan .outside t := by
  induction h with
  | nil => rfl
  | plain hc _ ih => rw [Skeleton.scan, Skeleton.scan, if_neg hc, if_neg hc, ih]
  | literal a b _ ih => rw [Skeleton.scan_quote, Skeleton.scan_quote, ih]

theorem quote_ne_nil (a : String) (s : List Char) : (Text.quote a).toList ++ s ≠ [] := by
  simp [Text.quote]

theorem eq_nil_iff (h : SameOutsideChars s t) : s = [] ↔ t = [] := by
  cases h with
  | nil => exact Iff.rfl
  | plain _ _ => simp
  | literal a b _ => exact iff_of_false (quote_ne_nil a _) (quote_ne_nil b _)

/-! ## Lines -/

/-- A text in front of the first line. -/
def onFirst (s : List Char) : List (List Char) → List (List Char)
  | [] => [s]
  | line :: rest => (s ++ line) :: rest

theorem splitLines_cons {c : Char} (rest : List Char) (hfeed : c ≠ '\n')
    (hreturn : c = '\r' → rest.head? ≠ some '\n') :
    Text.splitLines (c :: rest) = onFirst [c] (Text.splitLines rest) := by
  rw [Text.splitLines.eq_def]
  split
  · contradiction
  · next h => cases h; contradiction
  · next h =>
    cases h
    exact absurd rfl (hreturn rfl)
  · next h =>
    cases h
    cases Text.splitLines rest <;> rfl

theorem splitLines_inline_append : ∀ {s : List Char}, Inline s → s ≠ [] → ∀ rest : List Char,
    Text.splitLines (s ++ rest) = onFirst s (Text.splitLines rest)
  | [], _, hne, _ => absurd rfl hne
  | [c], h, _, rest => by
    have hc := h c List.mem_cons_self
    exact splitLines_cons rest hc.1 fun hreturn => absurd hreturn hc.2
  | c :: d :: s, h, _, rest => by
    have hc := h c List.mem_cons_self
    have hs : Inline (d :: s) := fun e he => h e (List.mem_cons_of_mem c he)
    have hrest := splitLines_inline_append hs (List.cons_ne_nil d s) rest
    have hcons := splitLines_cons (d :: s ++ rest) hc.1 fun hreturn => absurd hreturn hc.2
    rw [List.cons_append, hcons, hrest]
    cases Text.splitLines rest <;> rfl

theorem onFirst_forall₂ (h : SameOutsideChars s t) {ls lt : List (List Char)}
    (hlines : List.Forall₂ SameOutsideChars ls lt) :
    List.Forall₂ SameOutsideChars (onFirst s ls) (onFirst t lt) := by
  cases hlines with
  | nil => exact .cons h .nil
  | cons hline hrest => exact .cons (h.append hline) hrest

theorem head?_eq_feed (h : SameOutsideChars s t) (hs : s.head? = some '\n') :
    t.head? = some '\n' := by
  cases h with
  | nil => exact hs
  | plain _ _ => exact hs
  | literal a b _ => simp [Text.quote] at hs

theorem symm (h : SameOutsideChars s t) : SameOutsideChars t s := by
  induction h with
  | nil => exact .nil
  | plain hc _ ih => exact .plain hc ih
  | literal a b _ ih => exact .literal b a ih

/-- No line ends inside of a literal, so the lines are the same outside of literals. -/
theorem splitLines (h : SameOutsideChars s t) :
    List.Forall₂ SameOutsideChars (Text.splitLines s) (Text.splitLines t) := by
  induction h with
  | nil => exact .nil
  | @plain c s t hc h ih =>
    by_cases hfeed : c = '\n'
    · subst hfeed
      exact .cons .nil ih
    by_cases hpair : c = '\r' ∧ s.head? = some '\n'
    · obtain ⟨rfl, hs⟩ := hpair
      obtain ⟨s, rfl⟩ := List.head?_eq_some_iff.1 hs
      obtain ⟨t, rfl⟩ := List.head?_eq_some_iff.1 (h.head?_eq_feed hs)
      exact ih
    · have hs : c = '\r' → s.head? ≠ some '\n' := fun hreturn hs => hpair ⟨hreturn, hs⟩
      have ht : c = '\r' → t.head? ≠ some '\n' := fun hreturn ht =>
        hpair ⟨hreturn, h.symm.head?_eq_feed ht⟩
      rw [splitLines_cons s hfeed hs, splitLines_cons t hfeed ht]
      exact onFirst_forall₂ (.plain hc .nil) ih
  | @literal a b s t h ih =>
    have hquote : SameOutsideChars (Text.quote a).toList (Text.quote b).toList := by
      simpa using SameOutsideChars.literal a b .nil
    have hne : ∀ a, (Text.quote a).toList ≠ [] := fun a => by simpa using quote_ne_nil a []
    rw [splitLines_inline_append (inline_quote a) (hne a),
      splitLines_inline_append (inline_quote b) (hne b)]
    exact onFirst_forall₂ hquote ih

end SameOutsideChars

/-- Two texts are the same outside of literals. -/
def SameOutside (s t : String) : Prop := SameOutsideChars s.toList t.toList

/-- A text without quotes. -/
def Unquoted (s : String) : Prop := ∀ c ∈ s.toList, c ≠ '"'

instance (s : String) : Decidable (Unquoted s) := List.decidableBAll (fun c => c ≠ '"') s.toList

/-- Texts that are the same outside of literals have the same skeleton. -/
theorem SameOutside.skeleton_eq {s t : String} (h : SameOutside s t) : skeleton s = skeleton t :=
  h.scan_eq

namespace SameOutside

variable {s t s' t' : String}

theorem of_unquoted (h : Unquoted s) : SameOutside s s := SameOutsideChars.of_plain h

theorem quote (a b : String) : SameOutside (Text.quote a) (Text.quote b) := by
  simpa [SameOutside] using SameOutsideChars.literal a b .nil

theorem append (h : SameOutside s t) (h' : SameOutside s' t') :
    SameOutside (s ++ s') (t ++ t') := by
  unfold SameOutside
  rw [String.toList_append, String.toList_append]
  exact SameOutsideChars.append h h'

theorem isEmpty_eq (h : SameOutside s t) : s.isEmpty = t.isEmpty := by
  rw [Bool.eq_iff_iff, String.isEmpty_iff, String.isEmpty_iff, ← String.toList_eq_nil_iff,
    ← String.toList_eq_nil_iff]
  exact SameOutsideChars.eq_nil_iff h

theorem intercalate {sep : String} (hsep : Unquoted sep) {codes codes' : List String}
    (h : List.Forall₂ SameOutside codes codes') :
    SameOutside (String.intercalate sep codes) (String.intercalate sep codes') := by
  induction h with
  | nil => exact .nil
  | cons hcode hrest ih =>
    cases hrest with
    | nil => simpa using hcode
    | cons _ _ =>
      rw [String.intercalate_cons_cons, String.intercalate_cons_cons]
      exact (hcode.append (of_unquoted hsep)).append ih

theorem wrap (h : SameOutside s t) (inner outer : Precedence) :
    SameOutside (inner.wrap s outer) (inner.wrap t outer) := by
  unfold Precedence.wrap
  rw [h.isEmpty_eq]
  split_ifs
  · exact h
  · exact ((of_unquoted (by decide)).append h).append (of_unquoted (by decide))

theorem lines (h : SameOutside s t) : List.Forall₂ SameOutside (Text.lines s) (Text.lines t) := by
  have hlines := SameOutsideChars.splitLines h
  unfold Text.lines
  rw [List.forall₂_map_left_iff, List.forall₂_map_right_iff]
  refine hlines.imp fun line line' hline => ?_
  unfold SameOutside
  rwa [String.toList_ofList, String.toList_ofList]

/-- Code stays the same outside of literals when it is indented. -/
theorem indent {margin : String} (hmargin : Unquoted margin) (h : SameOutside s t) :
    SameOutside (Text.indent margin s) (Text.indent margin t) := by
  refine intercalate (by decide) ?_
  rw [List.forall₂_map_left_iff, List.forall₂_map_right_iff]
  refine h.lines.imp fun line line' hline => ?_
  rw [hline.isEmpty_eq]
  split_ifs
  · exact .nil
  · exact (of_unquoted hmargin).append hline

end SameOutside

end SceneScript.Script
