import SceneScript.Proofs.Rounding
import SceneScript.Proofs.Script.Numbers

/-!
# The shortest form

The search for a shortest form goes from the coarsest grid `10 ^ p` down to one that is finer than
half a unit, so that it always ends in the rounding interval.

* `Decimal.IsShortest`: on the coarsest grid with a point in the interval.
* **`Double.isShortest_shortest`**: the search finds a shortest form.
* `Decimal.IsShortest.not_dvd`: a fraction in shortest form does not end with a zero.
* **`Double.shortest_of_whole`**: the shortest form of a whole number that is not too large is exact.
-/

namespace SceneScript

theorem Decimal.value_of_nonneg {d : Decimal} (h : 0 ≤ d.exponent) :
    d.value = d.coefficient * (10 : ℚ) ^ d.exponent.toNat := by
  rw [value, if_pos h, Rat.mkRat_eq_div]
  simp

theorem Decimal.value_of_neg {d : Decimal} (h : ¬ 0 ≤ d.exponent) :
    d.value = d.coefficient / (10 : ℚ) ^ (-d.exponent).toNat := by
  rw [value, if_neg h, Rat.mkRat_eq_div]
  simp

theorem Decimal.value_eq (d : Decimal) : d.value = d.coefficient * (10 : ℚ) ^ d.exponent := by
  by_cases hexponent : 0 ≤ d.exponent
  · rw [value_of_nonneg hexponent, ← zpow_natCast, Int.toNat_of_nonneg hexponent]
  · rw [value_of_neg hexponent, ← zpow_natCast, Int.toNat_of_nonneg (by omega), zpow_neg,
      div_inv_eq_mul]

/-- A zero at the end of a decimal form can be left off. -/
theorem Decimal.value_carry (c : Nat) (p : Int) :
    (⟨c, p + 1⟩ : Decimal).value = (⟨c * 10, p⟩ : Decimal).value := by
  rw [value_eq, value_eq, zpow_add_one₀ (by norm_num), Nat.cast_mul]
  ring

namespace RoundingInterval

variable {i : RoundingInterval}

theorem Covers.convex {a b c : ℚ} (ha : i.Covers a) (hc : i.Covers c) (hab : a ≤ b) (hbc : b ≤ c) :
    i.Covers b := by
  unfold Covers at ha hc ⊢
  split_ifs at ha hc ⊢
  · exact ⟨ha.1.trans hab, hbc.trans hc.2⟩
  · exact ⟨ha.1.trans_le hab, hbc.trans_lt hc.2⟩

theorem covers_of_lt {h : ℚ} (hlow : i.low < h) (hhigh : h < i.high) : i.Covers h := by
  unfold Covers
  split_ifs
  · exact ⟨hlow.le, hhigh.le⟩
  · exact ⟨hlow, hhigh⟩

theorem nearestOnGrid_eq_none_iff {tie : Tie} {num den : Nat} :
    i.nearestOnGrid tie num den = none ↔
      i.contains (i.value * den / num * num) den = false ∧
        i.contains ((i.value * den / num + 1) * num) den = false := by
  simp only [nearestOnGrid]
  cases i.contains (i.value * den / num * num) den <;>
    cases i.contains ((i.value * den / num + 1) * num) den <;> simp

/-- If neither of the two points around the value lies in the interval, no point does. -/
theorem not_covers_of_nearestOnGrid_eq_none {tie : Tie} {num den : Nat} (hnum : 0 < num)
    (hden : 0 < den) (hvalue : i.Covers i.value) (h : i.nearestOnGrid tie num den = none) (c : Nat) :
    ¬ i.Covers (c * num / den) := by
  intro hc
  have hden' : (0 : ℚ) < den := by exact_mod_cast hden
  obtain ⟨hbelow, habove⟩ := nearestOnGrid_eq_none_iff.1 h
  rcases Nat.lt_or_ge (i.value * den / num) c with hlt | hge
  · have hle : ((i.value * den / num + 1) * num : Nat) ≤ (c * num : ℚ) := by
      exact_mod_cast Nat.mul_le_mul_right num hlt
    have hge : (i.value * den : ℚ) ≤ ((i.value * den / num + 1) * num : Nat) := by
      exact_mod_cast (Nat.lt_mul_of_div_lt (Nat.lt_succ_self _) hnum).le
    refine Bool.eq_false_iff.1 habove ((contains_iff_covers hden).2 (hvalue.convex hc ?_ ?_))
    · rwa [le_div_iff₀ hden']
    · exact div_le_div_of_nonneg_right hle hden'.le
  · have hle : (c * num : ℚ) ≤ (i.value * den / num * num : Nat) := by
      exact_mod_cast Nat.mul_le_mul_right num hge
    have hge : ((i.value * den / num * num : Nat) : ℚ) ≤ i.value * den := by
      exact_mod_cast Nat.div_mul_le_self _ _
    refine Bool.eq_false_iff.1 hbelow ((contains_iff_covers hden).2 (hc.convex hvalue ?_ ?_))
    · exact div_le_div_of_nonneg_right hle hden'.le
    · rwa [div_le_iff₀ hden']

/-- The grid `10 ^ p` as a grid of half units. -/
theorem exists_onDecimalGrid_eq (i : RoundingInterval) (tie : Tie) (p : Int) :
    ∃ num den : Nat, 0 < num ∧ 0 < den ∧
      (∀ c : Nat, (c * num / den : ℚ) = 2 * ((⟨c, p⟩ : Decimal).value * Double.one)) ∧
        i.onDecimalGrid tie p = (i.nearestOnGrid tie num den).map fun c => ⟨c, p⟩ := by
  have hhalves : 0 < 2 * Double.one := Nat.mul_pos (by omega) Double.one_pos
  by_cases hp : 0 ≤ p
  · refine ⟨10 ^ p.toNat * (2 * Double.one), 1, Nat.mul_pos (Nat.pow_pos (by omega)) hhalves,
      Nat.one_pos, fun c => ?_, ?_⟩
    · rw [Decimal.value_of_nonneg hp]
      push_cast
      ring
    · rw [onDecimalGrid, if_pos hp]
      rfl
  · refine ⟨2 * Double.one, 10 ^ (-p).toNat, hhalves, Nat.pow_pos (by omega), fun c => ?_, ?_⟩
    · rw [Decimal.value_of_neg hp]
      push_cast
      ring
    · rw [onDecimalGrid, if_neg hp]
      rfl

theorem covers_of_onDecimalGrid {tie : Tie} {p : Int} {d : Decimal}
    (h : i.onDecimalGrid tie p = some d) :
    d.exponent = p ∧ i.Covers (2 * (d.value * Double.one)) := by
  obtain ⟨num, den, -, hden, hpoint, hgrid⟩ := i.exists_onDecimalGrid_eq tie p
  obtain ⟨c, hc, rfl⟩ := Option.map_eq_some_iff.1 (hgrid.symm.trans h)
  have hcovers := (contains_iff_covers hden).1 (contains_of_nearestOnGrid hc)
  rw [Nat.cast_mul, hpoint] at hcovers
  exact ⟨rfl, hcovers⟩

theorem not_covers_of_onDecimalGrid_eq_none {tie : Tie} {p : Int} (hvalue : i.Covers i.value)
    (h : i.onDecimalGrid tie p = none) (c : Nat) :
    ¬ i.Covers (2 * ((⟨c, p⟩ : Decimal).value * Double.one)) := by
  obtain ⟨num, den, hnum, hden, hpoint, hgrid⟩ := i.exists_onDecimalGrid_eq tie p
  have hnone := Option.map_eq_none_iff.1 (hgrid.symm.trans h)
  rw [← hpoint]
  exact not_covers_of_nearestOnGrid_eq_none hnum hden hvalue hnone c

section OfPattern

variable {k : Nat} (hk : k ≠ 0)

include hk

/-- The value is at least half a unit away from the lower end. -/
theorem low_lt_value : (ofPattern k).low < (ofPattern k).value := by
  have hlt := Double.strictMono_unitsOfPattern (Nat.sub_one_lt hk)
  rw [ofPattern]
  dsimp only
  omega

omit hk in
theorem value_lt_high : (ofPattern k).value < (ofPattern k).high := by
  have hlt := Double.strictMono_unitsOfPattern (Nat.lt_add_one k)
  rw [ofPattern]
  dsimp only
  omega

theorem covers_value : (ofPattern k).Covers (ofPattern k).value :=
  covers_of_lt (by exact_mod_cast low_lt_value hk) (by exact_mod_cast value_lt_high)

/-- A grid of at most half a unit has a point just below the value. -/
theorem exists_covers_of_le {num den : Nat} (hnum : 0 < num) (hle : num ≤ den) :
    ∃ c : Nat, (ofPattern k).Covers (c * num / den) := by
  have hden : (0 : ℚ) < den := by exact_mod_cast hnum.trans_le hle
  have hbelow := Nat.div_mul_le_self ((ofPattern k).value * den) num
  have habove := Nat.lt_mul_of_div_lt (Nat.lt_succ_self ((ofPattern k).value * den / num)) hnum
  have hlow : ((ofPattern k).low + 1) * den ≤ (ofPattern k).value * den :=
    Nat.mul_le_mul_right den (low_lt_value hk)
  refine ⟨(ofPattern k).value * den / num, covers_of_lt ?_ ?_⟩
  · rw [lt_div_iff₀ hden]
    rw [Nat.succ_mul] at habove hlow
    exact_mod_cast (by omega : (ofPattern k).low * den < (ofPattern k).value * den / num * num)
  · rw [div_lt_iff₀ hden]
    have hhigh := Nat.mul_lt_mul_of_pos_right (value_lt_high (k := k)) (hnum.trans_le hle)
    exact_mod_cast hbelow.trans_lt hhigh

theorem onDecimalGrid_ne_none {p : Int} (hp : ¬ 0 ≤ p)
    (hfine : 2 * Double.one ≤ Nat.pow 10 (-p).toNat) (tie : Tie) :
    (ofPattern k).onDecimalGrid tie p ≠ none := by
  intro hnone
  have hhalves : 0 < 2 * Double.one := Nat.mul_pos (by omega) Double.one_pos
  obtain ⟨c, hc⟩ := exists_covers_of_le hk hhalves hfine
  rw [onDecimalGrid, if_neg hp, Option.map_eq_none_iff] at hnone
  exact not_covers_of_nearestOnGrid_eq_none hhalves (hhalves.trans_le hfine) (covers_value hk) hnone
    c hc

end OfPattern

end RoundingInterval

/-! ## The search -/

theorem mem_decimalGrids {p : Int} : p ∈ decimalGrids ↔ -324 ≤ p ∧ p ≤ 308 := by
  simp only [decimalGrids, List.mem_map, List.mem_range]
  constructor
  · rintro ⟨n, hn, rfl⟩
    omega
  · rintro ⟨hlow, hhigh⟩
    exact ⟨(308 - p).toNat, by omega, by omega⟩

theorem pairwise_decimalGrids : decimalGrids.Pairwise (· > ·) := by
  refine List.pairwise_map.2 (List.pairwise_lt_range.imp fun hlt => ?_)
  omega

/-- A decimal form in an interval, on the coarsest of the grids that have a point there. -/
structure Decimal.IsShortest (d : Decimal) (i : RoundingInterval) : Prop where
  covers : i.Covers (2 * (d.value * Double.one))
  coarsest (c : Nat) (p : Int) : d.exponent < p → p ≤ 308 →
    ¬ i.Covers (2 * ((⟨c, p⟩ : Decimal).value * Double.one))

/-- A fraction in shortest form does not end with a zero. -/
theorem Decimal.IsShortest.not_dvd {d : Decimal} {i : RoundingInterval} (h : d.IsShortest i)
    (hexponent : d.exponent < 0) : ¬ 10 ∣ d.coefficient := by
  rintro ⟨c, hc⟩
  refine h.coarsest c (d.exponent + 1) (by omega) (by omega) ?_
  rw [Decimal.value_carry, Nat.mul_comm, ← hc]
  exact h.covers

/-- **The search finds a shortest form.** -/
theorem Double.isShortest_shortest {x : Double} (hx : x.pattern ≠ 0) (tie : Tie) :
    (x.shortest tie).IsShortest (.ofPattern x.pattern) := by
  have hvalue := RoundingInterval.covers_value hx
  rw [shortest]
  cases hfound : decimalGrids.findSome?
      ((RoundingInterval.ofPattern x.pattern).onDecimalGrid tie) with
  | none =>
    have hfinest : (-324 : Int) ∈ decimalGrids := mem_decimalGrids.2 (by omega)
    exact absurd (List.findSome?_eq_none_iff.1 hfound _ hfinest)
      (RoundingInterval.onDecimalGrid_ne_none hx (by omega) (by decide +kernel) tie)
  | some d =>
    obtain ⟨coarser, p, finer, hgrids, hd, hnone⟩ := List.findSome?_eq_some_iff.1 hfound
    obtain ⟨rfl, hcovers⟩ := RoundingInterval.covers_of_onDecimalGrid hd
    rw [Option.getD_some]
    refine ⟨hcovers, fun c p hlt hle => ?_⟩
    have hmem : p ∈ decimalGrids := by
      have hfine := mem_decimalGrids.1 (hgrids ▸ List.mem_append_right _ List.mem_cons_self :
        d.exponent ∈ decimalGrids)
      exact mem_decimalGrids.2 (by omega)
    have hpairwise := pairwise_decimalGrids
    rw [hgrids] at hmem hpairwise
    rcases List.mem_append.1 hmem with hcoarser | hfiner
    · exact RoundingInterval.not_covers_of_onDecimalGrid_eq_none hvalue (hnone p hcoarser) c
    · -- From the grid of the result on the grids are finer.
      have hle := (List.pairwise_append.1 hpairwise).2.1
      rcases List.mem_cons.1 hfiner with rfl | hfiner
      · omega
      · have hgt := (List.pairwise_cons.1 hle).1 p hfiner
        omega

/-! ## Whole numbers -/

section Whole

variable {x : Double} {n : Nat} (hx : x.pattern ≠ 0) (hunits : x.units = n * Double.one)
  (hbound : n < Literal.wholeBound)

include hx hunits

theorem Double.pos_of_whole : 0 < n := by
  refine Nat.pos_of_ne_zero ?_
  rintro rfl
  rw [Nat.zero_mul] at hunits
  exact (unitsOfPattern_pos (Nat.pos_of_ne_zero hx)).ne' hunits

theorem Double.binade_le_pattern_of_whole : binade ≤ x.pattern := by
  have hbinade : binade ≤ one := by decide +kernel
  have hone : one ≤ n * one := Nat.le_mul_of_pos_left one (pos_of_whole hx hunits)
  by_contra hlt
  rw [units, unitsOfPattern_of_lt (by omega)] at hunits
  omega

include hbound

/-- The step at a whole number that is not too large is less than one. -/
theorem Double.step_lt_one_of_whole : step x.pattern < one := by
  have hle := binade_mul_step_le (binade_le_pattern_of_whole hx hunits)
  have hbinade : Literal.wholeBound ≤ binade := by decide +kernel
  have hlt : n * one < binade * one := Nat.mul_lt_mul_of_pos_right (by omega) one_pos
  have hunits' : unitsOfPattern x.pattern = n * one := hunits
  exact Nat.lt_of_mul_lt_mul_left (by omega : binade * step x.pattern < binade * one)

/-- The rounding interval of a whole number that is not too large has no other whole number. -/
theorem Double.eq_of_covers_whole {m : Nat}
    (h : (RoundingInterval.ofPattern x.pattern).Covers (2 * (m * one))) : m = n := by
  have hstep := step_lt_one_of_whole hx hunits hbound
  have hbelow : step (x.pattern - 1) ≤ step x.pattern := step_mono (Nat.sub_le _ _)
  have hpattern : x.pattern - 1 + 1 = x.pattern := Nat.sub_add_cancel (Nat.pos_of_ne_zero hx)
  have hprevious := unitsOfPattern_succ (x.pattern - 1)
  have hnext := unitsOfPattern_succ x.pattern
  have hunits' : unitsOfPattern x.pattern = n * one := hunits
  have hlow : unitsOfPattern (x.pattern - 1) + unitsOfPattern x.pattern ≤ 2 * (m * one) := by
    exact_mod_cast h.low_le
  have hhigh : 2 * (m * one) ≤ unitsOfPattern x.pattern + unitsOfPattern (x.pattern + 1) := by
    exact_mod_cast h.le_high
  rw [hpattern] at hprevious
  rcases Nat.lt_trichotomy m n with hlt | heq | hgt
  · have hmul : (m + 1) * one ≤ n * one := Nat.mul_le_mul_right one hlt
    rw [Nat.succ_mul] at hmul
    omega
  · exact heq
  · have hmul : (n + 1) * one ≤ m * one := Nat.mul_le_mul_right one hgt
    rw [Nat.succ_mul] at hmul
    omega

/-- **The shortest form of a whole number that is not too large is exact.** -/
theorem Double.shortest_of_whole (tie : Tie) : 0 ≤ (x.shortest tie).exponent ∧
    (x.shortest tie).coefficient * 10 ^ (x.shortest tie).exponent.toNat = n := by
  have hshortest := isShortest_shortest hx tie
  have hexponent : 0 ≤ (x.shortest tie).exponent := by
    by_contra hneg
    refine hshortest.coarsest n 0 (by omega) (by omega) ?_
    have hvalue : (2 * ((⟨n, 0⟩ : Decimal).value * one) : ℚ) =
        (RoundingInterval.ofPattern x.pattern).value := by
      have hunits' : unitsOfPattern x.pattern = n * one := hunits
      rw [Decimal.value_eq, RoundingInterval.ofPattern]
      dsimp only
      rw [hunits']
      push_cast
      ring
    rw [hvalue]
    exact RoundingInterval.covers_value hx
  refine ⟨hexponent, eq_of_covers_whole hx hunits hbound ?_⟩
  have hcovers := hshortest.covers
  rw [Decimal.value_of_nonneg hexponent] at hcovers
  exact_mod_cast hcovers

end Whole

end SceneScript
