import SceneScript.Literal
import SceneScript.Proofs.Script.Tokens

/-!
# Number literals

The literal of a number is one token. Its value is the number itself if that is whole and not too
large, the shortest decimal that stands for it if not, and zero if the number is not finite.

* `Decimal.value`, `Literal.value`: the value of a decimal form, of a literal.
* `Script.Numeral`: a decimal number as it is written.
* `Script.exists_numeral`: a decimal form with all digits at their places is a numeral.
* **`Script.reads_number`**: a number literal is read as its value.
-/

namespace SceneScript

/-- The value of a decimal form. -/
def Decimal.value (d : Decimal) : Rat :=
  if 0 ≤ d.exponent then mkRat (d.coefficient * Nat.pow 10 d.exponent.toNat : Nat) 1
  else mkRat d.coefficient (Nat.pow 10 (-d.exponent).toNat)

/-- The value that the literal of a number stands for. -/
def Literal.value (x : Double) : Rat :=
  if !x.isFinite then 0
  else
    let size : Rat :=
      if x.isWhole && x.units < wholeBound * Double.one then mkRat (x.units / Double.one : Nat) 1
      else (x.shortest layout.tie).value
    if x.isNegative then -size else size

/-! ## Digits -/

theorem head?_toDigits {n : Nat} (h : 0 < n) : (Nat.toDigits 10 n).head? ≠ some '0' := by
  induction n using Nat.strongRecOn with
  | ind n ih =>
    rw [Nat.toDigits_eq_if (by omega)]
    split_ifs with hlt
    · have hdigit : ∀ d < 10, 0 < d → [Nat.digitChar d].head? ≠ some '0' := by decide
      exact hdigit n hlt h
    · rw [List.head?_append_of_ne_nil _ Nat.toDigits_ne_nil]
      exact ih (n / 10) (by omega) (by omega)

theorem isDigit_of_mem_toDigits {n : Nat} {c : Char} (h : c ∈ Nat.toDigits 10 n) :
    c.isDigit = true :=
  Nat.isDigit_of_mem_toDigits (by omega) (by omega) h

/-! ## Shortest forms -/

theorem unitsOfPattern_pos {pattern : Nat} (h : 0 < pattern) :
    0 < Double.unitsOfPattern pattern := by
  unfold Double.unitsOfPattern
  split_ifs
  · exact h
  · refine Nat.mul_pos (Nat.add_pos_left ?_ _) (Nat.pow_pos (by omega))
    exact Nat.pow_pos (by omega)

theorem RoundingInterval.pos_of_contains {i : RoundingInterval} {num den : Nat} (hlow : 0 < i.low)
    (hden : 0 < den) (h : i.contains num den = true) : 0 < num := by
  have hpos : 0 < i.low * den := Nat.mul_pos hlow hden
  unfold contains at h
  split_ifs at h <;> simp only [Bool.and_eq_true, decide_eq_true_eq] at h <;> omega

theorem RoundingInterval.contains_of_nearestOnGrid {i : RoundingInterval} {tie : Tie}
    {num den c : Nat} (h : i.nearestOnGrid tie num den = some c) :
    i.contains (c * num) den = true := by
  simp only [nearestOnGrid] at h
  split at h <;> simp only [Option.some.injEq, reduceCtorEq] at h
  · next hbelow _ => rw [← h]; exact hbelow
  · next _ habove => rw [← h]; exact habove
  · next hbelow habove =>
    rw [← h]
    split_ifs
    · exact habove
    · exact hbelow

theorem RoundingInterval.pos_of_nearestOnGrid {i : RoundingInterval} {tie : Tie} {num den c : Nat}
    (hlow : 0 < i.low) (hden : 0 < den) (h : i.nearestOnGrid tie num den = some c) : 0 < c :=
  Nat.pos_of_mul_pos_right (pos_of_contains hlow hden (contains_of_nearestOnGrid h))

/-- A shortest form is not zero, or it is the one without any digits. -/
theorem Double.shortest_cases {x : Double} (hx : x.pattern ≠ 0) (tie : Tie) :
    0 < (x.shortest tie).coefficient ∨ x.shortest tie = ⟨0, 0⟩ := by
  rw [shortest]
  cases hfound : decimalGrids.findSome?
      ((RoundingInterval.ofPattern x.pattern).onDecimalGrid tie) with
  | none => exact .inr rfl
  | some d =>
    refine .inl ?_
    obtain ⟨p, -, hp⟩ := List.exists_of_findSome?_eq_some hfound
    have hlow : 0 < (RoundingInterval.ofPattern x.pattern).low :=
      Nat.add_pos_right _ (unitsOfPattern_pos (Nat.pos_of_ne_zero hx))
    simp only [RoundingInterval.onDecimalGrid] at hp
    obtain ⟨c, hc, rfl⟩ := Option.map_eq_some_iff.1 hp
    split_ifs at hc
    · exact RoundingInterval.pos_of_nearestOnGrid hlow (by omega) hc
    · exact RoundingInterval.pos_of_nearestOnGrid hlow (Nat.pow_pos (by omega)) hc

namespace Script

/-! ## Reading a literal -/

theorem takeWhile_eq_nil_of_stops {rest : List Char} (h : Stops rest) :
    rest.takeWhile Char.isDigit = [] := by
  cases rest with
  | nil => rfl
  | cons c rest =>
    refine List.takeWhile_cons_of_neg fun hdigit => ?_
    have hchar := (h c rfl).1
    rw [isIdentifierChar_of_isDigit hdigit] at hchar
    cases hchar

theorem dropWhile_eq_self_of_stops {rest : List Char} (h : Stops rest) :
    rest.dropWhile Char.isDigit = rest := by
  have happend := List.takeWhile_append_dropWhile (p := Char.isDigit) (l := rest)
  rwa [takeWhile_eq_nil_of_stops h, List.nil_append] at happend

theorem any_head?_of_stops {rest : List Char} (h : Stops rest) :
    rest.head?.any (fun c => isIdentifierChar c || c = '.') = false := by
  cases rest with
  | nil => rfl
  | cons c rest => simp [(h c rfl).1, (h c rfl).2]

theorem readPlaces_of_stops {rest : List Char} (h : Stops rest) :
    readPlaces rest = (none, rest) := by
  unfold readPlaces
  split
  · exact absurd rfl (h '.' rfl).2
  · rfl

section Digits

variable {whole places rest : List Char} (hwhole : ∀ c ∈ whole, c.isDigit = true) (hne : whole ≠ [])
  (hzero : whole.head? = some '0' → whole.length = 1) (hrest : Stops rest)

include hwhole hne hzero hrest

theorem readNumber_whole (negative : Bool) :
    readNumber negative (whole ++ rest) = some (.number (decimal negative whole []), rest) := by
  rw [readNumber]
  simp only [List.takeWhile_append_of_pos hwhole, List.dropWhile_append_of_pos hwhole,
    takeWhile_eq_nil_of_stops hrest, dropWhile_eq_self_of_stops hrest, List.append_nil,
    readPlaces_of_stops hrest, any_head?_of_stops hrest]
  rw [if_neg]
  · rfl
  · simp only [hne, false_or, reduceCtorEq, Bool.false_eq_true, or_false, not_and]
    intro h
    rw [hzero h]
    omega

theorem readNumber_places (hplaces : ∀ c ∈ places, c.isDigit = true) (hne' : places ≠ [])
    (negative : Bool) : readNumber negative (whole ++ '.' :: places ++ rest) =
      some (.number (decimal negative whole places), rest) := by
  have hpoint : ('.' :: (places ++ rest)).takeWhile Char.isDigit = [] := rfl
  have hpoint' : ('.' :: (places ++ rest)).dropWhile Char.isDigit = '.' :: (places ++ rest) := rfl
  rw [readNumber, List.append_assoc, List.cons_append]
  simp only [List.takeWhile_append_of_pos hwhole, List.dropWhile_append_of_pos hwhole, hpoint,
    hpoint', List.append_nil, readPlaces, List.takeWhile_append_of_pos hplaces,
    List.dropWhile_append_of_pos hplaces, takeWhile_eq_nil_of_stops hrest,
    dropWhile_eq_self_of_stops hrest, any_head?_of_stops hrest]
  rw [if_neg]
  · rfl
  · simp only [hne, hne', false_or, Option.some.injEq, Bool.false_eq_true, or_false, not_and]
    intro h
    rw [hzero h]
    omega

end Digits

/-- A sign and a text that is read as a number are one token. -/
theorem reads_signed {negative : Bool} {text : List Char} {value : Rat}
    (hdigit : ∃ c rest, text = c :: rest ∧ c.isDigit = true)
    (hread : ∀ rest, Stops rest → readNumber negative (text ++ rest) = some (.number value, rest)) :
    Reads ((if negative then ['-'] else []) ++ text) [.number value] := by
  intro rest hrest
  obtain ⟨c, text, rfl, hc⟩ := hdigit
  cases negative with
  | true =>
    have htoken : readToken '-' (c :: text ++ rest) = some (.number value, rest) := hread rest hrest
    rw [if_pos rfl, List.append_assoc, List.singleton_append, lex_cons, if_neg (by decide), htoken,
      Option.bind_some]
  | false =>
    have hblank : isBlank c = false :=
      isBlank_eq_false_of_identifier (isIdentifierChar_of_isDigit hc)
    have htoken : readToken c (text ++ rest) = some (.number value, rest) := by
      rw [readToken, if_pos hc]
      exact hread rest hrest
    rw [if_neg (by simp), List.nil_append, List.cons_append, lex_cons, if_neg (by simp [hblank]),
      htoken, Option.bind_some]

theorem exists_digit {digits : List Char} (hdigits : ∀ c ∈ digits, c.isDigit = true)
    (hne : digits ≠ []) (rest : List Char) :
    ∃ c rest', digits ++ rest = c :: rest' ∧ c.isDigit = true := by
  obtain ⟨c, digits, rfl⟩ := List.exists_cons_of_ne_nil hne
  exact ⟨c, digits ++ rest, rfl, hdigits c List.mem_cons_self⟩

/-- A decimal number as it is written: digits before the point, with no zero in front of others, and
digits behind it. -/
structure Numeral where
  negative : Bool
  whole : List Char
  /-- There is no point if no digits stand behind it. -/
  places : List Char
  whole_ne_nil : whole ≠ []
  isDigit_whole : ∀ c ∈ whole, c.isDigit = true
  length_of_zero : whole.head? = some '0' → whole.length = 1
  isDigit_places : ∀ c ∈ places, c.isDigit = true

namespace Numeral

/-- A numeral without its sign. -/
def unsigned (n : Numeral) : List Char :=
  n.whole ++ if n.places = [] then [] else '.' :: n.places

/-- The text of a numeral. -/
def text (n : Numeral) : List Char :=
  (if n.negative then ['-'] else []) ++ n.unsigned

/-- The value of a numeral. -/
def value (n : Numeral) : Rat :=
  decimal n.negative n.whole n.places

theorem readNumber_unsigned (n : Numeral) {rest : List Char} (hrest : Stops rest) :
    readNumber n.negative (n.unsigned ++ rest) = some (.number n.value, rest) := by
  rw [unsigned, value]
  split_ifs with hplaces
  · rw [hplaces, List.append_nil]
    exact readNumber_whole n.isDigit_whole n.whole_ne_nil n.length_of_zero hrest n.negative
  · exact readNumber_places n.isDigit_whole n.whole_ne_nil n.length_of_zero hrest n.isDigit_places
      hplaces n.negative

/-- A numeral is one token, with its value. -/
theorem reads (n : Numeral) : Reads n.text [.number n.value] :=
  reads_signed (exists_digit n.isDigit_whole n.whole_ne_nil _) fun _ hrest =>
    n.readNumber_unsigned hrest

end Numeral

/-- The digits of a natural number are read as the number. -/
theorem reads_nat (negative : Bool) (n : Nat) :
    Reads ((if negative then ['-'] else []) ++ Nat.toDigits 10 n)
      [.number (if negative then -mkRat n 1 else mkRat n 1)] := by
  let numeral : Numeral :=
    { negative
      whole := Nat.toDigits 10 n
      places := []
      whole_ne_nil := Nat.toDigits_ne_nil
      isDigit_whole := fun _ => isDigit_of_mem_toDigits
      length_of_zero := by
        intro h
        cases n with
        | zero => rfl
        | succ n => exact absurd h (head?_toDigits (by omega))
      isDigit_places := by simp }
  have htext : numeral.text = (if negative then ['-'] else []) ++ Nat.toDigits 10 n := by
    simp [numeral, Numeral.text, Numeral.unsigned]
  have hvalue : numeral.value = if negative then -mkRat n 1 else mkRat n 1 := by
    simp only [numeral, Numeral.value, decimal, List.append_nil, Nat.ofDigitChars_ten_toDigits]
    rfl
  rw [← htext, ← hvalue]
  exact numeral.reads

section Positional

variable {d : Decimal} (negative : Bool)

theorem isDigit_digits : ∀ c ∈ d.digits, c.isDigit = true := fun _ => isDigit_of_mem_toDigits

theorem digits_ne_nil : d.digits ≠ [] := Nat.toDigits_ne_nil

theorem ofDigitChars_digits : Nat.ofDigitChars 10 d.digits 0 = d.coefficient :=
  Nat.ofDigitChars_ten_toDigits

theorem isDigit_zeros (n : Nat) : ∀ c ∈ List.replicate n '0', c.isDigit = true := by
  intro c hc
  rw [List.eq_of_mem_replicate hc]
  rfl

/-- A numeral spells a decimal form with all digits at their places. Digits behind the point end as
those of the decimal form. -/
structure Numeral.Spells (n : Numeral) (negative : Bool) (d : Decimal) : Prop where
  text : n.text = (if negative then ['-'] else []) ++ (d.positional "").toList
  value : n.value = if negative then -d.value else d.value
  getLast? : n.places ≠ [] → d.exponent < 0 ∧ n.places.getLast? = d.digits.getLast?

/-- The digits of a whole number, with zeros up to the point. -/
theorem exists_numeral_whole (hd : 0 < d.coefficient ∨ d = ⟨0, 0⟩) (hexponent : 0 ≤ d.exponent) :
    ∃ n : Numeral, n.Spells negative d := by
  have htext : (d.positional "").toList = d.digits ++ List.replicate d.exponent.toNat '0' := by
    simp [Decimal.positional, hexponent]
  have hhead : (d.digits ++ List.replicate d.exponent.toNat '0').head? = some '0' →
      (d.digits ++ List.replicate d.exponent.toNat '0').length = 1 := by
    rcases hd with hpos | rfl
    · rw [List.head?_append_of_ne_nil _ digits_ne_nil]
      exact fun h => absurd h (head?_toDigits hpos)
    · exact fun _ => rfl
  refine ⟨⟨negative, d.digits ++ List.replicate d.exponent.toNat '0', [], ?_, ?_, hhead, ?_⟩, ?_⟩
  · simp [digits_ne_nil]
  · exact List.forall_mem_append.2 ⟨isDigit_digits, isDigit_zeros _⟩
  · simp
  · constructor
    · rw [htext]
      simp [Numeral.text, Numeral.unsigned]
    · rw [Numeral.value, decimal, List.append_nil, Nat.ofDigitChars_append, ofDigitChars_digits,
        Nat.ofDigitChars_replicate_zero, Decimal.value, if_pos hexponent, Nat.mul_comm]
      rfl
    · exact fun h => absurd rfl h

/-- The point stands between two digits. -/
theorem exists_numeral_inside (hd : 0 < d.coefficient) (hexponent : ¬ 0 ≤ d.exponent)
    (hpoint : 0 < d.point) : ∃ n : Numeral, n.Spells negative d := by
  have htext : (d.positional "").toList =
      d.digits.take d.point.toNat ++ '.' :: d.digits.drop d.point.toNat := by
    simp [Decimal.positional, hexponent, hpoint]
  have hplaces : d.point.toNat < d.digits.length ∧
      d.digits.length - d.point.toNat = (-d.exponent).toNat := by
    simp only [Decimal.point] at hpoint ⊢
    omega
  have hhead : (d.digits.take d.point.toNat).head? = some '0' →
      (d.digits.take d.point.toNat).length = 1 := by
    rw [List.head?_take, if_neg (by omega)]
    exact fun h => absurd h (head?_toDigits hd)
  have hdrop : d.digits.drop d.point.toNat ≠ [] := by
    simp only [ne_eq, List.drop_eq_nil_iff]
    omega
  refine ⟨⟨negative, d.digits.take d.point.toNat, d.digits.drop d.point.toNat, ?_, ?_, hhead, ?_⟩, ?_⟩
  · simp only [ne_eq, List.take_eq_nil_iff, digits_ne_nil, or_false]
    omega
  · exact fun c hc => isDigit_digits c (List.mem_of_mem_take hc)
  · exact fun c hc => isDigit_digits c (List.mem_of_mem_drop hc)
  · constructor
    · rw [htext, Numeral.text, Numeral.unsigned, if_neg hdrop]
    · rw [Numeral.value, decimal, List.take_append_drop, ofDigitChars_digits, List.length_drop,
        hplaces.2, Decimal.value, if_neg hexponent]
    · exact fun _ => ⟨by omega, by rw [List.getLast?_drop, if_neg (by omega)]⟩

/-- The point stands in front of the digits, with zeros behind it. -/
theorem exists_numeral_front (hexponent : ¬ 0 ≤ d.exponent) (hpoint : ¬ 0 < d.point) :
    ∃ n : Numeral, n.Spells negative d := by
  have htext : (d.positional "").toList =
      ['0'] ++ '.' :: (List.replicate (-d.point).toNat '0' ++ d.digits) := by
    simp [Decimal.positional, hexponent, hpoint]
  have hlength : (-d.point).toNat + d.digits.length = (-d.exponent).toNat := by
    simp only [Decimal.point] at hpoint ⊢
    omega
  have hnumber :
      Nat.ofDigitChars 10 (['0'] ++ (List.replicate (-d.point).toNat '0' ++ d.digits)) 0 =
      d.coefficient := by
    rw [Nat.ofDigitChars_append, Nat.ofDigitChars_append, Nat.ofDigitChars_cons,
      Nat.ofDigitChars_nil]
    simp [Nat.ofDigitChars_replicate_zero, ofDigitChars_digits]
  have hplaces : List.replicate (-d.point).toNat '0' ++ d.digits ≠ [] := by simp [digits_ne_nil]
  refine ⟨⟨negative, ['0'], List.replicate (-d.point).toNat '0' ++ d.digits, ?_, ?_, ?_, ?_⟩, ?_⟩
  · simp
  · simp
  · exact fun _ => rfl
  · exact List.forall_mem_append.2 ⟨isDigit_zeros _, isDigit_digits⟩
  · constructor
    · rw [htext, Numeral.text, Numeral.unsigned, if_neg hplaces]
    · rw [Numeral.value, decimal, hnumber, List.length_append, List.length_replicate, hlength,
        Decimal.value, if_neg hexponent]
    · exact fun _ => ⟨by omega, List.getLast?_append_of_ne_nil _ digits_ne_nil⟩

/-- A decimal form with all digits at their places is a numeral. -/
theorem exists_numeral (hd : 0 < d.coefficient ∨ d = ⟨0, 0⟩) : ∃ n : Numeral, n.Spells negative d := by
  by_cases hexponent : 0 ≤ d.exponent
  · exact exists_numeral_whole negative hd hexponent
  · have hpos : 0 < d.coefficient := by
      rcases hd with hpos | rfl
      · exact hpos
      · exact absurd (Int.le_refl 0) hexponent
    by_cases hpoint : 0 < d.point
    · exact exists_numeral_inside negative hpos hexponent hpoint
    · exact exists_numeral_front negative hexponent hpoint

theorem reads_positional (hd : 0 < d.coefficient ∨ d = ⟨0, 0⟩) :
    Reads ((if negative then ['-'] else []) ++ (d.positional "").toList)
      [.number (if negative then -d.value else d.value)] := by
  obtain ⟨n, hn⟩ := exists_numeral negative hd
  rw [← hn.text, ← hn.value]
  exact n.reads

end Positional

theorem toList_toString_int (negative : Bool) (n : Nat) :
    (toString (if negative then -(n : Int) else n)).toList =
      (if negative && n != 0 then ['-'] else []) ++ Nat.toDigits 10 n := by
  rcases Nat.eq_zero_or_pos n with rfl | hpos
  · cases negative <;> rfl
  · cases negative with
    | true => simp [Int.toString_eq_repr, Int.repr_eq_if, Nat.ne_of_gt hpos]
    | false => simp [Int.toString_eq_repr, Int.repr_eq_if]

theorem reads_int (negative : Bool) (n : Nat) :
    Reads (toString (if negative then -(n : Int) else n)).toList
      [.number (if negative then -mkRat n 1 else mkRat n 1)] := by
  rw [toList_toString_int]
  have hvalue : (if negative then -mkRat n 1 else mkRat n 1) =
      if (negative && n != 0) = true then -mkRat n 1 else mkRat n 1 := by
    rcases Nat.eq_zero_or_pos n with rfl | hpos
    · cases negative <;> rfl
    · cases negative <;> simp [Nat.ne_of_gt hpos]
  rw [hvalue]
  exact reads_nat (negative && n != 0) n

theorem toList_write {x : Double} (hx : x.pattern ≠ 0) : (Literal.layout.write x).toList =
    (if x.isNegative then ['-'] else []) ++
      ((x.shortest Literal.layout.tie).positional "").toList := by
  rw [Layout.write, if_neg hx]
  cases x.isNegative <;> simp [Literal.layout]

/-- Zero is whole, so a shortest form is written only for other numbers. -/
theorem pattern_ne_zero {x : Double}
    (h : ¬ (x.isWhole && x.units < Literal.wholeBound * Double.one) = true) : x.pattern ≠ 0 := by
  intro hzero
  have hbinade : 0 < Double.binade := Nat.pow_pos (by omega)
  have hone : 0 < Double.one := by decide +kernel
  have hunits : x.units = 0 := by
    rw [Double.units, hzero, Double.unitsOfPattern, if_pos hbinade]
  have hbound : 0 < Literal.wholeBound * Double.one := Nat.mul_pos (Nat.pow_pos (by omega)) hone
  refine h ?_
  rw [Double.isWhole, hunits, Nat.zero_mod, decide_eq_true hbound]
  rfl

/-- **A number literal is one token**, with its value. -/
theorem reads_number (x : Double) :
    Reads (Literal.number x).toList [.number (Literal.value x)] := by
  rw [Literal.number, Literal.value]
  cases hfinite : x.isFinite with
  | false =>
    simp only [Bool.not_false, if_true]
    exact reads_nat false 0
  | true =>
    simp only [Bool.not_true, Bool.false_eq_true, if_false]
    by_cases hwhole : (x.isWhole && x.units < Literal.wholeBound * Double.one) = true
    · rw [if_pos hwhole, if_pos hwhole]
      exact reads_int x.isNegative (x.units / Double.one)
    · rw [if_neg hwhole, if_neg hwhole]
      have hx := pattern_ne_zero hwhole
      rw [toList_write hx]
      exact reads_positional x.isNegative (Double.shortest_cases hx _)

/-! ## Characters of numbers -/

/-- A character that can stand in a number literal. -/
def isNumberChar (c : Char) : Bool := c.isDigit || c = '-' || c = '.'

theorem isNumberChar_of_isDigit {c : Char} (h : c.isDigit = true) : isNumberChar c = true := by
  rw [isNumberChar, h]
  rfl

theorem isNumberChar_positional {d : Decimal} {c : Char} (h : c ∈ (d.positional "").toList) :
    isNumberChar c = true := by
  have hdigit : ∀ c ∈ d.digits, isNumberChar c = true := fun c hc =>
    isNumberChar_of_isDigit (isDigit_digits c hc)
  have hzero : ∀ n, ∀ c ∈ List.replicate n '0', isNumberChar c = true := fun n c hc =>
    isNumberChar_of_isDigit (isDigit_zeros n c hc)
  have hpoint : ∀ c ∈ ".".toList, isNumberChar c = true :=
    List.all_eq_true.1 (by decide)
  have hfront : ∀ c ∈ "0.".toList, isNumberChar c = true :=
    List.all_eq_true.1 (by decide)
  rw [Decimal.positional] at h
  split_ifs at h <;> simp only [String.toList_append, String.toList_ofList, List.mem_append] at h
  · rcases h with (h | h) | h
    · exact hdigit c h
    · exact hzero _ c h
    · exact absurd h List.not_mem_nil
  · rcases h with (h | h) | h
    · exact hdigit c (List.mem_of_mem_take h)
    · exact hpoint c h
    · exact hdigit c (List.mem_of_mem_drop h)
  · rcases h with h | h | h
    · exact hfront c h
    · exact hzero _ c h
    · exact hdigit c h

/-- A number literal has only characters of numbers. -/
theorem isNumberChar_number {x : Double} {c : Char} (h : c ∈ (Literal.number x).toList) :
    isNumberChar c = true := by
  have hsign : ∀ {b : Bool}, c ∈ (if b then ['-'] else []) → isNumberChar c = true := by
    intro b hc
    cases b
    · exact absurd hc List.not_mem_nil
    · rw [List.mem_singleton.1 hc]
      rfl
  have hzero : ∀ c ∈ "0".toList, isNumberChar c = true := List.all_eq_true.1 (by decide)
  unfold Literal.number at h
  split at h
  · exact hzero c h
  · split at h
    · have hint : c ∈ (toString (if x.isNegative then -((x.units / Double.one : Nat) : Int)
          else ((x.units / Double.one : Nat) : Int))).toList := h
      rw [toList_toString_int, List.mem_append] at hint
      exact hint.elim hsign fun h => isNumberChar_of_isDigit (isDigit_of_mem_toDigits h)
    · next hwhole =>
      rw [toList_write (pattern_ne_zero hwhole), List.mem_append] at h
      exact h.elim hsign isNumberChar_positional

end Script

end SceneScript
