import SceneScript.Proofs.ShortestForm

/-!
# Number literals are faithful

The literal of a finite double other than zero is a numeral that is rounded to the double again. It
is laid out from the shortest form in all cases: the digits of a whole number that is not too large
are those of its shortest form, with the zeros up to the point.

* `Literal.number_eq_zero`: what is written as zero.
* `Literal.number_eq_write`: the two ways to write a number agree.
* `Script.Numeral.Faithful`: a numeral stands for a double.
* **`number_faithful`**: number literals are faithful.
-/

namespace SceneScript

/-! ## Digits -/

theorem getLast?_toDigits (n : Nat) :
    (Nat.toDigits 10 n).getLast? = some (Nat.digitChar (n % 10)) := by
  rw [Nat.toDigits_eq_if (by omega)]
  split_ifs with hlt
  · rw [Nat.mod_eq_of_lt hlt]
    rfl
  · exact List.getLast?_concat

theorem getLast?_toDigits_ne_zero {n : Nat} (h : ¬ 10 ∣ n) :
    (Nat.toDigits 10 n).getLast? ≠ some '0' := by
  have hdigit : ∀ d < 10, d ≠ 0 → Nat.digitChar d ≠ '0' := by decide
  rw [getLast?_toDigits]
  intro hzero
  exact hdigit (n % 10) (Nat.mod_lt _ (by omega)) (by omega) (Option.some.inj hzero)

theorem toDigits_mul_pow {c : Nat} (hc : 0 < c) (e : Nat) :
    Nat.toDigits 10 (c * 10 ^ e) = Nat.toDigits 10 c ++ List.replicate e '0' := by
  induction e with
  | zero => simp
  | succ e ih =>
    have hpos : 0 < c * 10 ^ e := Nat.mul_pos hc (Nat.pow_pos (by omega))
    have hshift : c * 10 ^ (e + 1) = c * 10 ^ e * 10 := by rw [Nat.pow_succ, Nat.mul_assoc]
    rw [hshift, Nat.toDigits_eq_if (by omega), if_neg (by omega), Nat.mul_div_cancel _ (by omega),
      Nat.mul_mod_left, ih, List.replicate_succ', List.append_assoc]
    rfl

/-! ## Shortest forms -/

theorem RoundingInterval.low_pos {k : Nat} (hk : k ≠ 0) : 0 < (ofPattern k).low :=
  Nat.add_pos_right _ (unitsOfPattern_pos (Nat.pos_of_ne_zero hk))

theorem Decimal.IsShortest.value_pos {d : Decimal} {k : Nat} (hk : k ≠ 0)
    (h : d.IsShortest (.ofPattern k)) : 0 < d.value := by
  have hlow : (0 : ℚ) < (RoundingInterval.ofPattern k).low := by
    exact_mod_cast RoundingInterval.low_pos hk
  have hone : (0 : ℚ) < Double.one := by exact_mod_cast Double.one_pos
  have hle := h.covers.low_le
  exact (mul_pos_iff_of_pos_right hone).1 (by linarith)

theorem Decimal.IsShortest.coefficient_pos {d : Decimal} {k : Nat} (hk : k ≠ 0)
    (h : d.IsShortest (.ofPattern k)) : 0 < d.coefficient := by
  refine Nat.pos_of_ne_zero fun hzero => ?_
  have hpos := h.value_pos hk
  rw [Decimal.value_eq, hzero, Nat.cast_zero, zero_mul] at hpos
  exact lt_irrefl _ hpos

namespace Literal

variable {x : Double}

/-! ## The two ways to write a number -/

/-- A whole number that is not too large is written digit by digit. -/
theorem toList_number_of_whole (hfinite : x.isFinite = true)
    (hwhole : (x.isWhole && x.units < wholeBound * Double.one) = true) :
    (number x).toList = (if x.isNegative && x.units / Double.one != 0 then ['-'] else []) ++
      Nat.toDigits 10 (x.units / Double.one) := by
  rw [number, hfinite, Bool.not_true, if_neg Bool.false_ne_true, if_pos hwhole,
    ← Script.toList_toString_int]
  rfl

theorem number_eq_zero (hx : x.isFinite = false ∨ x.pattern = 0) : number x = "0" := by
  cases hfinite : x.isFinite with
  | false =>
    rw [number, hfinite]
    rfl
  | true =>
    have hpattern : x.pattern = 0 := hx.resolve_left (by simp [hfinite])
    have hwhole : (x.isWhole && x.units < wholeBound * Double.one) = true := by
      by_contra h
      exact Script.pattern_ne_zero h hpattern
    have hunits : x.units = 0 := by
      rw [Double.units, hpattern, Double.unitsOfPattern_of_lt Double.binade_pos]
    refine String.toList_inj.1 ?_
    rw [toList_number_of_whole hfinite hwhole, hunits, Nat.zero_div]
    simp

/-- **The two ways to write a number agree.** -/
theorem number_eq_write (hfinite : x.isFinite = true) (hx : x.pattern ≠ 0) :
    number x = layout.write x := by
  by_cases hwhole : (x.isWhole && x.units < wholeBound * Double.one) = true
  · obtain ⟨hdvd, hlt⟩ := Bool.and_eq_true_iff.1 hwhole
    have hunits : x.units = x.units / Double.one * Double.one := by
      refine (Nat.div_mul_cancel (Nat.dvd_of_mod_eq_zero ?_)).symm
      simpa [Double.isWhole] using hdvd
    have hbound : x.units / Double.one < wholeBound :=
      Nat.div_lt_of_lt_mul (by rw [Nat.mul_comm]; simpa using hlt)
    obtain ⟨hexponent, hvalue⟩ := Double.shortest_of_whole hx hunits hbound layout.tie
    have hcoefficient := (Double.isShortest_shortest hx layout.tie).coefficient_pos hx
    refine String.toList_inj.1 ?_
    rw [toList_number_of_whole hfinite hwhole, Script.toList_write hx, Decimal.positional,
      if_pos hexponent, ← hvalue, toDigits_mul_pow hcoefficient, hvalue]
    simp [(Double.pos_of_whole hx hunits).ne', Decimal.digits]
  · rw [number, hfinite, Bool.not_true, if_neg Bool.false_ne_true, if_neg hwhole]

end Literal

/-! ## Faithful numerals -/

/-- A numeral stands for a double: no zero ends the digits behind the point, the numeral is rounded to
the double and to no other one, and it is exact for a whole number that is not too large. -/
structure Script.Numeral.Faithful (n : Script.Numeral) (x : Double) : Prop where
  trimmed : n.places.getLast? ≠ some '0'
  nearest (y : Double) : y.IsNearest n.value ↔ y = x
  whole (m : ℤ) : x.value = m → |m| < 10 ^ 15 → n.value = m

namespace Script.Numeral.Spells

variable {n : Script.Numeral} {negative : Bool} {d : Decimal}

theorem abs_value (h : n.Spells negative d) (hd : 0 < d.value) : |n.value| = d.value := by
  rw [h.value]
  cases negative
  · rw [if_neg Bool.false_ne_true, abs_of_pos hd]
  · rw [if_pos rfl, abs_neg, abs_of_pos hd]

theorem value_neg_iff (h : n.Spells negative d) (hd : 0 < d.value) :
    negative = decide (n.value < 0) := by
  rw [h.value]
  cases negative
  · simp [hd.le]
  · simp [hd]

theorem trimmed (h : n.Spells negative d) {i : RoundingInterval} (hd : d.IsShortest i) :
    n.places.getLast? ≠ some '0' := by
  by_cases hplaces : n.places = []
  · simp [hplaces]
  · obtain ⟨hexponent, hlast⟩ := h.getLast? hplaces
    rw [hlast]
    exact getLast?_toDigits_ne_zero (hd.not_dvd hexponent)

end Script.Numeral.Spells

namespace Double

variable {x : Double}

theorem abs_value (x : Double) : |x.value| = x.units / one := by
  have hsize : (0 : ℚ) ≤ x.units / one := div_nonneg (Nat.cast_nonneg _) (Nat.cast_nonneg _)
  rw [value]
  split_ifs
  · rw [abs_neg, abs_of_nonneg hsize]
  · exact abs_of_nonneg hsize

theorem units_of_value_eq {m : ℤ} (h : x.value = m) : x.units = m.natAbs * one := by
  have hone : (one : ℚ) ≠ 0 := by exact_mod_cast one_pos.ne'
  have hsize := x.abs_value
  rw [h, eq_div_iff hone] at hsize
  have hunits : ((m.natAbs * one : ℕ) : ℚ) = x.units := by
    rw [← hsize, Nat.cast_mul, Nat.cast_natAbs, Int.cast_abs]
  exact_mod_cast hunits.symm

/-- The shortest form of a whole number that is not too large has its value. -/
theorem value_shortest_of_whole (hx : x.pattern ≠ 0) {m : ℤ} (hm : x.value = m)
    (hbound : |m| < 10 ^ 15) (tie : Tie) : (x.shortest tie).value = x.units / one := by
  have hone : (one : ℚ) ≠ 0 := by exact_mod_cast one_pos.ne'
  have hunits := units_of_value_eq hm
  have hlt : m.natAbs < Literal.wholeBound := by
    rw [Int.abs_eq_natAbs] at hbound
    rw [Literal.wholeBound]
    exact_mod_cast hbound
  obtain ⟨hexponent, hvalue⟩ := shortest_of_whole hx hunits hlt tie
  rw [Decimal.value_of_nonneg hexponent, hunits, eq_div_iff hone, ← hvalue]
  push_cast
  ring

theorem isNaN_of_isFinite (h : x.isFinite = true) : x.isNaN = false :=
  isNaN_eq_false_iff.2 (decide_eq_true_iff.1 h).le

end Double

/-- **Number literals are faithful.** What is not finite and zero are written as zero. The literal of
any other double is laid out from its shortest form and is a numeral that stands for it. -/
theorem number_faithful (x : Double) :
    (x.isFinite = false ∨ x.pattern = 0 → Literal.number x = "0") ∧
      (x.isFinite = true → x.pattern ≠ 0 → Literal.number x = Literal.layout.write x ∧
        ∃ n : Script.Numeral, (Literal.number x).toList = n.text ∧ n.Faithful x) := by
  refine ⟨Literal.number_eq_zero, fun hfinite hx => ?_⟩
  have hwrite := Literal.number_eq_write hfinite hx
  have hshortest := Double.isShortest_shortest hx Literal.layout.tie
  have hpos := hshortest.value_pos hx
  obtain ⟨n, hn⟩ := Script.exists_numeral x.isNegative (.inl (hshortest.coefficient_pos hx))
  refine ⟨hwrite, n, ?_, hn.trimmed hshortest, fun y => ?_, fun m hm hbound => ?_⟩
  · rw [hwrite, Script.toList_write hx, hn.text]
  · have hnearest : x.IsNearest n.value := by
      refine Double.isNearest_of_covers (Double.isNaN_of_isFinite hfinite) hx
        (hn.value_neg_iff hpos) ?_
      rw [hn.abs_value hpos]
      exact hshortest.covers
    refine ⟨fun hy => hy.unique hnearest, ?_⟩
    rintro rfl
    exact hnearest
  · rw [hn.value, Double.value_shortest_of_whole hx hm hbound, ← hm, Double.value]

/-- The double nearest to one tenth, which is a little more than it. -/
def tenth : Double := ⟨0x3FB999999999999A⟩

/-- The literal `0.1` is rounded to the double that it was written for. -/
theorem number_faithful_tenth : tenth.isFinite = true ∧ tenth.pattern ≠ 0 ∧
    Literal.number tenth = "0.1" ∧ Literal.number tenth = Literal.layout.write tenth ∧
      ∃ n : Script.Numeral, (Literal.number tenth).toList = n.text ∧ n.Faithful tenth := by
  have hfinite : tenth.isFinite = true := by decide +kernel
  have hpattern : tenth.pattern ≠ 0 := by decide +kernel
  exact ⟨hfinite, hpattern, by decide +kernel, (number_faithful tenth).2 hfinite hpattern⟩

end SceneScript
