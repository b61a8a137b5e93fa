import Mathlib.Data.List.TakeWhile
import SceneScript.Proofs.Hygiene
import SceneScript.Proofs.Script.Syntax
import SceneScript.Text.Quoted

/-!
# Tokens of generated text

* `lex_cons`: the tokens of a text from its first character on.
* `Closed`: a text whose tokens do not depend on what follows it.
* `Reads`: a text whose tokens do not depend on what follows it, if that is neither a letter nor a
  point.
-/

namespace SceneScript.Script

/-! ## One token after another -/

theorem length_readString (text : List Char) {found : List Char × List Char}
    (h : readString text = some found) : found.2.length ≤ text.length := by
  fun_induction readString text generalizing found with
  | case1 => cases h
  | case2 rest =>
    cases h
    simp
  | case3 a b c d rest ih =>
    simp only [Option.bind_eq_bind, Option.bind_eq_some_iff] at h
    obtain ⟨_, -, ⟨text, rest'⟩, hrest, h⟩ := h
    cases h
    have hle : rest'.length ≤ rest.length := ih hrest
    simp only [List.length_cons]
    omega
  | case4 c rest hne ih =>
    simp only [Option.bind_eq_bind, Option.bind_eq_some_iff] at h
    obtain ⟨_, -, ⟨text, rest'⟩, hrest, h⟩ := h
    cases h
    have hle : rest'.length ≤ rest.length := ih hrest
    simp only [List.length_cons]
    omega
  | case5 => cases h
  | case6 c rest _ _ _ _ ih =>
    simp only [Option.bind_eq_bind, Option.bind_eq_some_iff] at h
    obtain ⟨⟨text, rest'⟩, hrest, h⟩ := h
    cases h
    have hle : rest'.length ≤ rest.length := ih hrest
    simp only [List.length_cons]
    omega

theorem length_dropWhile_le (p : Char → Bool) (text : List Char) :
    (text.dropWhile p).length ≤ text.length :=
  (List.dropWhile_suffix p).length_le

theorem length_readPlaces (text : List Char) : (readPlaces text).2.length ≤ text.length := by
  unfold readPlaces
  split
  · exact Nat.le_succ_of_le (length_dropWhile_le _ _)
  · exact Nat.le_refl _

theorem length_readNumber {negative : Bool} {text : List Char} {found : Token × List Char}
    (h : readNumber negative text = some found) : found.2.length < text.length := by
  simp only [readNumber] at h
  split_ifs at h with hbad
  cases h
  simp only [not_or] at hbad
  have hplaces := length_readPlaces (text.dropWhile Char.isDigit)
  have hsplit :=
    congrArg List.length (List.takeWhile_append_dropWhile (p := Char.isDigit) (l := text))
  have hpos := List.length_pos_iff.2 hbad.1
  rw [List.length_append] at hsplit
  simp only
  omega

theorem length_readToken {c : Char} {rest : List Char} {found : Token × List Char}
    (h : readToken c rest = some found) : found.2.length ≤ rest.length := by
  unfold readToken at h
  split_ifs at h
  · have hlt := length_readNumber h
    rw [List.length_cons] at hlt
    omega
  · cases h
    exact length_dropWhile_le _ _
  · exact Nat.le_of_lt (length_readNumber h)
  · obtain ⟨found', hfound, rfl⟩ := Option.map_eq_some_iff.1 h
    exact length_readString rest hfound
  · cases h
    simp
  · cases h
    exact Nat.le_refl _
  · cases h
    exact Nat.le_refl _

theorem lexWithin_eq : ∀ (limit limit' : Nat) (text : List Char), text.length ≤ limit →
    text.length ≤ limit' → lexWithin limit text = lexWithin limit' text
  | limit, limit', [], _, _ => by cases limit <;> cases limit' <;> rfl
  | 0, _, _ :: _, h, _ => absurd h (by simp)
  | _, 0, _ :: _, _, h => absurd h (by simp)
  | limit + 1, limit' + 1, c :: rest, h, h' => by
    rw [List.length_cons] at h h'
    rw [lexWithin, lexWithin]
    split_ifs
    · exact lexWithin_eq limit limit' rest (by omega) (by omega)
    · cases hfound : readToken c rest with
      | none => rfl
      | some found =>
        have hle := length_readToken hfound
        simp only [Option.bind_eq_bind, Option.bind_some]
        rw [lexWithin_eq limit limit' found.2 (by omega) (by omega)]

/-- Tokens in front of others, if there are others. -/
def prepend (tokens : List Token) (rest : Option (List Token)) : Option (List Token) :=
  rest.map (tokens ++ ·)

@[simp] theorem prepend_prepend (as bs : List Token) (rest : Option (List Token)) :
    prepend as (prepend bs rest) = prepend (as ++ bs) rest := by
  simp [prepend, Function.comp_def]

theorem prepend_nil (rest : Option (List Token)) : prepend [] rest = rest := by
  simp [prepend]

/-- The tokens of a text, from its first character on. -/
theorem lex_cons (c : Char) (rest : List Char) : lex (c :: rest) =
    if isBlank c then lex rest
    else (readToken c rest).bind fun found => prepend [found.1] (lex found.2) := by
  rw [lex, List.length_cons, lexWithin]
  split_ifs
  · rfl
  · cases hfound : readToken c rest with
    | none => rfl
    | some found =>
      have hle := length_readToken hfound
      simp only [Option.bind_eq_bind, Option.bind_some]
      rw [lexWithin_eq _ found.2.length found.2 hle (Nat.le_refl _), lex]
      cases lexWithin found.2.length found.2 <;> rfl

/-! ## Texts that keep their tokens -/

/-- The tokens of a text do not depend on what follows it. -/
def Closed (text : List Char) (tokens : List Token) : Prop :=
  ∀ rest, lex (text ++ rest) = prepend tokens (lex rest)

/-- Neither a letter nor a digit nor a point comes next. -/
def Stops (rest : List Char) : Prop := ∀ c ∈ rest.head?, isIdentifierChar c = false ∧ c ≠ '.'

/-- The tokens of a text do not depend on what follows it, as long as it stops there. -/
def Reads (text : List Char) (tokens : List Token) : Prop :=
  ∀ rest, Stops rest → lex (text ++ rest) = prepend tokens (lex rest)

variable {a b : List Char} {as bs : List Token}

theorem closed_nil : Closed [] [] := fun _ => (prepend_nil _).symm

theorem Closed.append (ha : Closed a as) (hb : Closed b bs) : Closed (a ++ b) (as ++ bs) := by
  intro rest
  rw [List.append_assoc, ha, hb, prepend_prepend]

theorem Closed.reads (ha : Closed a as) : Reads a as := fun rest _ => ha rest

theorem Closed.append_reads (ha : Closed a as) (hb : Reads b bs) : Reads (a ++ b) (as ++ bs) := by
  intro rest hrest
  rw [List.append_assoc, ha, hb rest hrest, prepend_prepend]

/-- A text ends what stands before it: it starts with neither a letter nor a digit nor a point. -/
def ends : List Char → Bool
  | [] => false
  | c :: _ => !isIdentifierChar c && c != '.'

theorem Reads.append_closed (ha : Reads a as) (hb : Closed b bs) (hends : ends b = true) :
    Closed (a ++ b) (as ++ bs) := by
  intro rest
  have hstops : Stops (b ++ rest) := by
    cases b with
    | nil => cases hends
    | cons c b =>
      intro d hd
      cases hd
      simpa [ends] using hends
  rw [List.append_assoc, ha _ hstops, hb, prepend_prepend]

/-! ## Marks and blanks -/

theorem lex_mark {c : Char} (h : isMark c = true) (rest : List Char) :
    lex (c :: rest) = prepend [.mark c] (lex rest) := by
  have hother : "()[]\x7b\x7d,:;.".toList.all (fun c => !isBlank c && !c.isDigit &&
      !isIdentifierChar c && c ≠ '-' && c ≠ '"' && c ≠ '=') = true := by decide
  have hc := List.all_eq_true.1 hother c (List.contains_iff_mem.1 h)
  simp only [Bool.and_eq_true, Bool.not_eq_true', decide_eq_true_eq] at hc
  obtain ⟨⟨⟨⟨⟨hblank, hdigit⟩, hletter⟩, hminus⟩, hquote⟩, hequals⟩ := hc
  have htoken : readToken c rest = some (.mark c, rest) := by
    simp [readToken, hdigit, hletter, hminus, hquote, hequals, h]
  rw [lex_cons, if_neg (by simp [hblank]), htoken, Option.bind_some]

theorem lex_blank {c : Char} (h : isBlank c = true) (rest : List Char) :
    lex (c :: rest) = lex rest := by
  rw [lex_cons, if_pos h]

/-- Each mark is a token of its own, with or without blanks between them. -/
theorem closed_marks : ∀ {text : List Char}, text.all (fun c => isMark c || isBlank c) = true →
    Closed text ((text.filter isMark).map .mark)
  | [], _ => closed_nil
  | c :: text, h => by
    rw [List.all_cons, Bool.and_eq_true, Bool.or_eq_true] at h
    intro rest
    have htext := closed_marks h.2 rest
    rcases Bool.eq_false_or_eq_true (isMark c) with hmark | hmark
    · rw [List.cons_append, lex_mark hmark, htext, prepend_prepend, List.filter_cons_of_pos hmark]
      rfl
    · have hblank : isBlank c = true := h.1.resolve_left (by simp [hmark])
      rw [List.cons_append, lex_blank hblank, htext, List.filter_cons_of_neg (by simp [hmark])]

/-! ## Words -/

theorem isBlank_eq_false_of_identifier {c : Char} (h : isIdentifierChar c = true) :
    isBlank c = false := by
  rw [Bool.eq_false_iff]
  intro hblank
  simp only [isBlank, Bool.or_eq_true, decide_eq_true_eq] at hblank
  rcases hblank with ((rfl | rfl) | rfl) | rfl <;> revert h <;> decide

/-- A word is one token, as long as no letter follows. -/
theorem lex_word {word : List Char} (hword : isIdentifierText word = true) {rest : List Char}
    (hrest : ∀ c ∈ rest.head?, isIdentifierChar c = false) :
    lex (word ++ rest) = prepend [.word (String.ofList word)] (lex rest) := by
  cases word with
  | nil => cases hword
  | cons c word =>
    simp only [isIdentifierText, Bool.and_eq_true, Bool.not_eq_true', List.all_eq_true] at hword
    obtain ⟨⟨hc, hdigit⟩, hword⟩ := hword
    have htake : rest.takeWhile isIdentifierChar = [] := by
      cases rest with
      | nil => rfl
      | cons d rest => exact List.takeWhile_cons_of_neg (by simp [hrest d rfl])
    have hdrop : rest.dropWhile isIdentifierChar = rest := by
      have happend := List.takeWhile_append_dropWhile (p := isIdentifierChar) (l := rest)
      rwa [htake, List.nil_append] at happend
    have htoken : readToken c (word ++ rest) = some (.word (String.ofList (c :: word)), rest) := by
      rw [readToken, if_neg (by simp [hdigit]), if_pos hc, List.takeWhile_append_of_pos hword,
        List.dropWhile_append_of_pos hword, htake, hdrop, List.append_nil]
    rw [List.cons_append, lex_cons, if_neg (by simp [isBlank_eq_false_of_identifier hc]), htoken,
      Option.bind_some]

theorem reads_word {word : String} (hword : isIdentifier word = true) :
    Reads word.toList [.word word] := by
  intro rest hrest
  rw [lex_word hword fun c hc => (hrest c hc).1, String.ofList_toList]

/-! ## String literals -/

theorem hexDigit?_digitChar : ∀ d < 16, hexDigit? (Nat.digitChar d) = some d := by decide

theorem unicode?_hexQuad {c : Char} (h : c.toNat < 65536) :
    unicode? (Nat.digitChar (c.toNat / 4096 % 16)) (Nat.digitChar (c.toNat / 256 % 16))
      (Nat.digitChar (c.toNat / 16 % 16)) (Nat.digitChar (c.toNat % 16)) = some c := by
  have hmod : ∀ n, n % 16 < 16 := fun n => Nat.mod_lt n (by omega)
  simp only [unicode?, hexDigit?_digitChar _ (hmod _), Option.bind_eq_bind, Option.bind_some]
  have hsum : (c.toNat / 4096 % 16 * 16 + c.toNat / 256 % 16) * 256 + c.toNat / 16 % 16 * 16 +
      c.toNat % 16 = c.toNat := by omega
  rw [hsum, if_pos (show c.toNat.isValidChar from c.valid), Char.ofNat_toNat]

/-- A character is read back from the way it stands inside a literal. -/
theorem readString_quoteChar (c : Char) (rest : List Char) :
    readString (Text.quoteChar c ++ rest) =
      (readString rest).map fun found => (c :: found.1, found.2) := by
  have hmap : (do let found ← readString rest; return (c :: found.1, found.2)) =
      (readString rest).map fun found => (c :: found.1, found.2) := by
    cases readString rest <;> rfl
  unfold Text.quoteChar
  split_ifs with hquote hbackslash hn hr ht hescape
  · subst hquote
    exact hmap
  · subst hbackslash
    exact hmap
  · subst hn
    exact hmap
  · subst hr
    exact hmap
  · subst ht
    exact hmap
  · have hlt : c.toNat < 65536 := by
      simp only [Text.isControl, Text.isSeparator, Bool.or_eq_true, Bool.and_eq_true,
        decide_eq_true_eq, beq_iff_eq] at hescape
      omega
    have hread := unicode?_hexQuad hlt
    simp only [Text.hexQuad, List.map_cons, List.map_nil, List.cons_append, List.nil_append,
      readString, hread]
    exact hmap
  · have hend : isLineEnd c = false := by
      simp only [Text.isSeparator, Bool.or_eq_true, not_or, beq_iff_eq] at hescape
      simp [isLineEnd, hn, hr, hescape.2]
    rw [List.singleton_append, readString, if_neg (by simp [hbackslash, hend])]
    · exact hmap
    · simp [hquote]
    · simp [hbackslash]
    · simp [hbackslash]

theorem readString_quote : ∀ (text rest : List Char),
    readString (text.flatMap Text.quoteChar ++ '"' :: rest) = some (text, rest)
  | [], _ => rfl
  | c :: text, rest => by
    rw [List.flatMap_cons, List.append_assoc, readString_quoteChar, readString_quote text rest]
    rfl

theorem closed_quote (text : String) : Closed (Text.quote text).toList [.string text] := by
  intro rest
  rw [Text.quote, String.toList_ofList, List.append_assoc, List.cons_append, List.cons_append,
    List.nil_append, lex_cons, if_neg (by decide)]
  have htoken : readToken '"' (text.toList.flatMap Text.quoteChar ++ '"' :: rest) =
      some (.string text, rest) := by
    simp [readToken, isIdentifierChar, readString_quote]
  rw [htoken, Option.bind_some]

end SceneScript.Script
