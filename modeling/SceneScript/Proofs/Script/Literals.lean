import SceneScript.Proofs.Script.Skeleton

/-!
# String literals

A literal shows by itself where it ends: all its quotes but the first and the last one are escaped,
and none of its characters ends a line.

* `readLiteral`: the literal that a text starts with.
* `escaping`: whether a text escapes the character behind it.
* **`readLiteral_quote_append`**: the literal of a text is read back, and reading stops behind it.
-/

namespace SceneScript.Script

/-- The text of the literal that a text starts with, and what follows the literal. -/
def readLiteral (text : String) : Option (String × String) :=
  match text.toList with
  | '"' :: chars =>
    (readString chars).map fun found => (String.ofList found.1, String.ofList found.2)
  | _ => none

/-- A character, escaped or not, escapes the next one if it is a backslash that is not escaped. -/
def escapesNext (escaped : Bool) (c : Char) : Bool := c = '\\' && !escaped

/-- A text escapes the character behind it: it ends with a backslash that is not escaped itself. -/
def escaping (text : List Char) : Bool := text.foldl escapesNext false

/-- What stands between the quotes of a literal. -/
def quotedBody (text : String) : List Char := text.toList.flatMap Text.quoteChar

theorem toList_quote (text : String) :
    (Text.quote text).toList = '"' :: quotedBody text ++ ['"'] := by
  rw [Text.quote, String.toList_ofList, quotedBody]

theorem readLiteral_quote (text rest : String) :
    readLiteral (Text.quote text ++ rest) = some (text, rest) := by
  have hchars : (Text.quote text ++ rest).toList =
      '"' :: (quotedBody text ++ '"' :: rest.toList) := by
    rw [String.toList_append, toList_quote]
    simp
  rw [readLiteral, hchars]
  simp [quotedBody, readString_quote]

/-! ## Escaped quotes -/

/-- A character that stands for itself in a literal. -/
def IsPlain (c : Char) : Prop :=
  c ≠ '"' ∧ c ≠ '\\' ∧ Text.isControl c = false ∧ Text.isSeparator c = false

instance : DecidablePred IsPlain := fun _ => inferInstanceAs (Decidable (_ ∧ _))

/-- A character stands in a literal as it is, or behind a backslash, or as four digits. -/
theorem quoteChar_cases (c : Char) :
    (Text.quoteChar c = [c] ∧ IsPlain c) ∨
    (∃ d ∈ ['"', '\\', 'n', 'r', 't'], Text.quoteChar c = ['\\', d]) ∨
    Text.quoteChar c = ['\\', 'u'] ++ Text.hexQuad c.toNat := by
  unfold Text.quoteChar
  split_ifs with hquote hbackslash _ _ _ hescape
  · exact .inr (.inl ⟨'"', by simp, rfl⟩)
  · exact .inr (.inl ⟨'\\', by simp, rfl⟩)
  · exact .inr (.inl ⟨'n', by simp, rfl⟩)
  · exact .inr (.inl ⟨'r', by simp, rfl⟩)
  · exact .inr (.inl ⟨'t', by simp, rfl⟩)
  · exact .inr (.inr rfl)
  · rw [Bool.or_eq_true, not_or, Bool.not_eq_true, Bool.not_eq_true] at hescape
    exact .inl ⟨rfl, hquote, hbackslash, hescape⟩

theorem isPlain_of_mem_hexQuad {c : Char} {n : Nat} (h : c ∈ Text.hexQuad n) : IsPlain c := by
  have hdigit : ∀ d < 16, IsPlain (Nat.digitChar d) := by decide
  obtain ⟨d, hd, rfl⟩ := List.mem_map.1 h
  refine hdigit d ?_
  simp only [List.mem_cons, List.not_mem_nil, or_false] at hd
  omega

theorem escaping_append {a : List Char} (h : escaping a = false) (b : List Char) :
    escaping (a ++ b) = escaping b := by
  rw [escaping, List.foldl_append, ← escaping, h, escaping]

theorem escaping_of_isPlain {text : List Char} (h : ∀ c ∈ text, IsPlain c) :
    escaping text = false := by
  induction text with
  | nil => rfl
  | cons c text ih =>
    have hc : escaping [c] = false := by
      simp [escaping, escapesNext, (h c List.mem_cons_self).2.1]
    rw [← List.singleton_append, escaping_append hc]
    exact ih fun d hd => h d (List.mem_cons_of_mem c hd)

theorem escaping_quoteChar (c : Char) : escaping (Text.quoteChar c) = false := by
  rcases quoteChar_cases c with ⟨h, hplain⟩ | ⟨d, -, h⟩ | h
  · rw [h]
    exact escaping_of_isPlain (by simpa using hplain)
  · rw [h]
    simp [escaping, escapesNext]
  · rw [h, escaping_append rfl]
    exact escaping_of_isPlain fun c hc => isPlain_of_mem_hexQuad hc

/-- A quote in the way a character stands in a literal is escaped. -/
theorem escaping_of_quoteChar_eq {c : Char} {before after : List Char}
    (h : Text.quoteChar c = before ++ '"' :: after) : escaping before = true := by
  have hmem : '"' ∈ Text.quoteChar c := by simp [h]
  rcases quoteChar_cases c with ⟨hc, hplain⟩ | ⟨d, -, hc⟩ | hc
  · rw [hc, List.mem_singleton] at hmem
    exact absurd hmem.symm hplain.1
  · rw [hc] at h
    rcases before with _ | ⟨_, _ | ⟨_, before⟩⟩
    · simp at h
    · simp only [List.singleton_append, List.cons.injEq] at h
      rw [← h.1]
      rfl
    · simp at h
  · rw [hc, List.mem_append] at hmem
    rcases hmem with hmem | hmem
    · simp at hmem
    · exact absurd rfl (isPlain_of_mem_hexQuad hmem).1

theorem escaping_of_flatMap_eq {text before after : List Char}
    (h : text.flatMap Text.quoteChar = before ++ '"' :: after) : escaping before = true := by
  induction text generalizing before with
  | nil => simp at h
  | cons c text ih =>
    rw [List.flatMap_cons] at h
    rcases List.append_eq_append_iff.1 h with ⟨more, rfl, hmore⟩ | ⟨more, hc, hmore⟩
    · rw [escaping_append (escaping_quoteChar c)]
      exact ih hmore
    · cases more with
      | nil =>
        -- The quote would be the first character behind `c`, where nothing escapes it.
        have hfirst : escaping [] = true := ih hmore.symm
        cases hfirst
      | cons d more =>
        rw [List.cons_append, List.cons.injEq] at hmore
        exact escaping_of_quoteChar_eq (hmore.1 ▸ hc)

/-! ## Lines -/

theorem isControl_of_mem_quoteChar {c d : Char} (h : d ∈ Text.quoteChar c) :
    Text.isControl d = false ∧ Text.isSeparator d = false := by
  have hescape : ∀ e ∈ ['"', '\\', 'n', 'r', 't', 'u'],
      Text.isControl e = false ∧ Text.isSeparator e = false := by
    simp [Text.isControl, Text.isSeparator]
  rcases quoteChar_cases c with ⟨hc, hplain⟩ | ⟨e, he, hc⟩ | hc
  · rw [hc, List.mem_singleton] at h
    rw [h]
    exact hplain.2.2
  · rw [hc] at h
    refine hescape d ?_
    rw [List.mem_cons, List.mem_singleton] at h
    rcases h with rfl | rfl
    · simp
    · exact List.mem_append_left ['u'] he
  · rw [hc, List.mem_append] at h
    rcases h with h | h
    · refine hescape d ?_
      rw [List.mem_cons, List.mem_singleton] at h
      rcases h with rfl | rfl
      · simp
      · simp
    · exact (isPlain_of_mem_hexQuad h).2.2

section Lines

open SameOutsideChars

theorem exists_mem_onFirst {s line : List Char} {lines : List (List Char)} (p : List Char)
    (hline : line ∈ lines) (h : s <:+: line) : ∃ line' ∈ onFirst p lines, s <:+: line' := by
  cases hline with
  | head rest => exact ⟨p ++ line, List.mem_cons_self, h.trans (List.suffix_append p line).isInfix⟩
  | tail first hrest => exact ⟨line, List.mem_cons_of_mem _ hrest, h⟩

/-- What does not leave its line stands in a line of every text in which it stands. -/
theorem exists_mem_splitLines {s : List Char} (h : Inline s) (hne : s ≠ []) (after : List Char) :
    ∀ before, ∃ line ∈ Text.splitLines (before ++ s ++ after), s <:+: line := by
  intro before
  induction before with
  | nil =>
    rw [List.nil_append, splitLines_inline_append h hne]
    cases Text.splitLines after with
    | nil => exact ⟨s, List.mem_cons_self, List.infix_rfl⟩
    | cons line rest =>
      exact ⟨s ++ line, List.mem_cons_self, (List.prefix_append s line).isInfix⟩
  | cons c before ih =>
    obtain ⟨line, hline, hs⟩ := ih
    rw [List.cons_append, List.cons_append]
    generalize before ++ s ++ after = rest at hline ⊢
    by_cases hfeed : c = '\n'
    · rw [hfeed, Text.splitLines]
      exact ⟨line, List.mem_cons_of_mem _ hline, hs⟩
    by_cases hpair : c = '\r' ∧ rest.head? = some '\n'
    · obtain ⟨rest', rfl⟩ := List.head?_eq_some_iff.1 hpair.2
      rw [Text.splitLines] at hline
      rw [hpair.1, Text.splitLines]
      exact ⟨line, hline, hs⟩
    · rw [splitLines_cons rest hfeed fun hreturn hhead => hpair ⟨hreturn, hhead⟩]
      exact exists_mem_onFirst [c] hline hs

end Lines

/-- **Literals can be read back, and show where they end.** Reading the literal of a text, whatever
follows it, yields exactly the text and what follows. All quotes between the first and the last one
are escaped, no control character and no separator stands between them, and so the whole literal
stands in one line wherever it stands. -/
theorem readLiteral_quote_append (text rest : String) :
    readLiteral (Text.quote text ++ rest) = some (text, rest) ∧
    ∃ body, (Text.quote text).toList = '"' :: body ++ ['"'] ∧
      (∀ before after, body = before ++ '"' :: after → escaping before = true) ∧
      (∀ c ∈ body, 0x1f < c.toNat ∧ (c.toNat < 0x7f ∨ 0x9f < c.toNat) ∧
        c.toNat ≠ 0x2028 ∧ c.toNat ≠ 0x2029) ∧
      ∀ before, ∃ line ∈ Text.lines (before ++ Text.quote text ++ rest),
        (Text.quote text).toList <:+: line.toList := by
  refine ⟨readLiteral_quote text rest, quotedBody text, toList_quote text, fun before after h => ?_,
    fun c hc => ?_, fun before => ?_⟩
  · exact escaping_of_flatMap_eq h
  · obtain ⟨d, -, hd⟩ := List.mem_flatMap.1 hc
    have hplain := isControl_of_mem_quoteChar hd
    simp only [Text.isControl, Text.isSeparator, Bool.or_eq_false_iff, Bool.and_eq_false_iff,
      decide_eq_false_iff_not, beq_eq_false_iff_ne] at hplain
    omega
  · have hne : (Text.quote text).toList ≠ [] := by simp [toList_quote]
    obtain ⟨line, hline, hs⟩ :=
      exists_mem_splitLines (inline_quote text) hne rest.toList before.toList
    refine ⟨String.ofList line, List.mem_map_of_mem ?_, by rwa [String.toList_ofList]⟩
    rwa [String.toList_append, String.toList_append]

end SceneScript.Script
