import Mathlib.Algebra.Order.Field.Rat
import Mathlib.Algebra.Order.Ring.Abs
import Mathlib.Order.Monotone.Basic
import Mathlib.Tactic.FieldSimp
import Mathlib.Tactic.Linarith
import Mathlib.Tactic.Ring
import SceneScript.Double.Shortest

/-!
# Rounding to nearest

A rational number is rounded to the double that is nearest to it, and of two equally near ones to
the one with the even pattern. The rational numbers between the midpoints to its two neighbours are
those that are rounded to a double.

* `Double.value`: the exact value of a double.
* `Double.IsNearest`: correct rounding.
* **`Double.IsNearest.unique`**: a number is rounded to one double only.
* **`Double.isNearest_of_covers`**: what lies in the rounding interval of a double is rounded to it.
-/

namespace SceneScript

namespace Double

/-- The exact value of a double. An infinity counts as the number that would come after the largest
one, and a zero has no sign here. -/
def value (x : Double) : ℚ :=
  if x.isNegative then -(x.units / one) else x.units / one

/-- A double is the one that a rational number is rounded to. -/
structure IsNearest (x : Double) (q : ℚ) : Prop where
  isNaN : x.isNaN = false
  /-- A number keeps its sign, also if it is rounded to zero. -/
  sign : x.isNegative = decide (q < 0)
  near (y : Double) : y.isNaN = false → |q - x.value| ≤ |q - y.value|
  even (y : Double) : y.isNaN = false → |q - x.value| = |q - y.value| → x.value ≠ y.value →
    x.pattern % 2 = 0

/-! ## Patterns -/

theorem binade_pos : 0 < binade := Nat.pow_pos (by omega)

theorem one_pos : 0 < one := by decide +kernel

theorem signBit_eq : signBit = 9223372036854775808 := rfl

theorem infinityPattern_lt : infinityPattern < 9223372036854775808 := by decide

theorem isNaN_eq_false_iff {x : Double} : x.isNaN = false ↔ x.pattern ≤ infinityPattern := by
  simp [isNaN]

theorem isNegative_iff {x : Double} : x.isNegative = true ↔ signBit ≤ x.bits.toNat :=
  decide_eq_true_iff

theorem eq_of_pattern_eq {x y : Double} (hsign : x.isNegative = y.isNegative)
    (hpattern : x.pattern = y.pattern) : x = y := by
  have hx := x.bits.toNat_lt
  have hy := y.bits.toNat_lt
  have hbits : x.bits.toNat = y.bits.toNat := by
    rw [Bool.eq_iff_iff, isNegative_iff, isNegative_iff, signBit_eq] at hsign
    rw [pattern, pattern, signBit_eq] at hpattern
    omega
  cases x
  cases y
  congr
  exact UInt64.toNat_inj.1 hbits

theorem pattern_ofPattern {k : Nat} (hk : k ≤ infinityPattern) (negative : Bool) :
    (ofPattern negative k).pattern = k := by
  have hbound := infinityPattern_lt
  cases negative <;> simp [ofPattern, pattern, signBit_eq] <;> omega

theorem isNegative_ofPattern {k : Nat} (hk : k ≤ infinityPattern) (negative : Bool) :
    (ofPattern negative k).isNegative = negative := by
  have hbound := infinityPattern_lt
  cases negative <;> simp [ofPattern, isNegative, signBit_eq] <;> omega

/-! ## Values of patterns -/

/-- The step from a pattern to the next one, in units. -/
def step (pattern : Nat) : Nat := Nat.pow 2 (pattern / binade - 1)

theorem unitsOfPattern_of_lt {k : Nat} (hk : k < binade) : unitsOfPattern k = k :=
  if_pos hk

theorem unitsOfPattern_normal {m : Nat} (hm : m < binade) (e : Nat) :
    unitsOfPattern (binade * (e + 1) + m) = (binade + m) * Nat.pow 2 e := by
  have hle : binade ≤ binade * (e + 1) := Nat.le_mul_of_pos_right _ (by omega)
  rw [unitsOfPattern, if_neg (by omega), Nat.mul_add_mod, Nat.mod_eq_of_lt hm,
    Nat.mul_add_div binade_pos, Nat.div_eq_of_lt hm]
  rfl

theorem step_normal {m : Nat} (hm : m < binade) (e : Nat) :
    step (binade * (e + 1) + m) = Nat.pow 2 e := by
  rw [step, Nat.mul_add_div binade_pos, Nat.div_eq_of_lt hm]
  rfl

theorem exists_normal {k : Nat} (hk : binade ≤ k) :
    ∃ e m, m < binade ∧ k = binade * (e + 1) + m := by
  have hdiv : 0 < k / binade := Nat.div_pos hk binade_pos
  refine ⟨k / binade - 1, k % binade, Nat.mod_lt _ binade_pos, ?_⟩
  rw [Nat.sub_add_cancel hdiv, Nat.div_add_mod]

theorem unitsOfPattern_succ (k : Nat) : unitsOfPattern (k + 1) = unitsOfPattern k + step k := by
  rcases Nat.lt_or_ge k binade with hlt | hge
  · have hstep : step k = 1 := by rw [step, Nat.div_eq_of_lt hlt]
    rw [hstep, unitsOfPattern_of_lt hlt]
    rcases Nat.lt_or_ge (k + 1) binade with hlt' | hge'
    · exact unitsOfPattern_of_lt hlt'
    · have hfirst := unitsOfPattern_normal binade_pos 0
      have htop : k + 1 = binade := by omega
      rw [htop]
      simpa using hfirst
  · obtain ⟨e, m, hm, rfl⟩ := exists_normal hge
    rw [unitsOfPattern_normal hm, step_normal hm]
    rcases Nat.lt_or_ge (m + 1) binade with hlt' | hge'
    · rw [Nat.add_assoc, unitsOfPattern_normal hlt', ← Nat.add_assoc, Nat.succ_mul]
    · -- The next pattern is the first one of the next exponent, where the step doubles.
      have hnext : binade * (e + 1) + m + 1 = binade * (e + 1 + 1) + 0 := by
        rw [Nat.mul_succ binade (e + 1)]
        omega
      have htop : binade + m + 1 = 2 * binade := by omega
      rw [hnext, unitsOfPattern_normal binade_pos, Nat.add_zero, ← Nat.succ_mul, Nat.succ_eq_add_one,
        htop, Nat.mul_comm 2, Nat.mul_assoc]
      congr 1
      exact Nat.pow_succ'

theorem strictMono_unitsOfPattern : StrictMono unitsOfPattern := by
  refine strictMono_nat_of_lt_succ fun k => ?_
  rw [unitsOfPattern_succ]
  exact Nat.lt_add_of_pos_right (Nat.pow_pos (by omega))

theorem step_mono {j k : Nat} (h : j ≤ k) : step j ≤ step k :=
  Nat.pow_le_pow_right (by omega) (Nat.sub_le_sub_right (Nat.div_le_div_right h) 1)

/-- A number that is not among the least ones has all its bits. -/
theorem binade_mul_step_le {k : Nat} (hk : binade ≤ k) : binade * step k ≤ unitsOfPattern k := by
  obtain ⟨e, m, hm, rfl⟩ := exists_normal hk
  rw [unitsOfPattern_normal hm, step_normal hm]
  exact Nat.mul_le_mul_right _ (Nat.le_add_right _ _)

/-! ## Distances -/

/-- A double of the same sign as a number: only the sizes count. -/
theorem abs_sub_value_of_sign {y : Double} {q : ℚ} (hy : y.isNegative = decide (q < 0)) :
    |q - y.value| * one = |(|q| * one - y.units)| := by
  have hone : (0 : ℚ) < one := by exact_mod_cast one_pos
  have hmul : |q - y.value| * one = |q * one - y.value * one| := by
    rw [← sub_mul, abs_mul, abs_of_pos hone]
  rw [hmul, value, hy]
  rcases lt_or_ge q 0 with hq | hq
  · rw [if_pos (by simpa using hq), abs_of_neg hq, neg_mul, div_mul_cancel₀ _ hone.ne', ← abs_neg]
    ring_nf
  · rw [if_neg (by simpa using hq), abs_of_nonneg hq, div_mul_cancel₀ _ hone.ne']

/-- A double of the other sign: the sizes add up. -/
theorem abs_sub_value_of_sign_ne {y : Double} {q : ℚ} (hy : y.isNegative ≠ decide (q < 0)) :
    |q - y.value| * one = |q| * one + y.units := by
  have hone : (0 : ℚ) < one := by exact_mod_cast one_pos
  have hunits : (0 : ℚ) ≤ y.units / one := div_nonneg (Nat.cast_nonneg _) hone.le
  rw [value, Bool.eq_not.2 hy]
  rcases lt_or_ge q 0 with hq | hq
  · rw [if_neg (by simpa using hq), abs_of_neg hq, abs_of_neg (by linarith)]
    field_simp
    ring
  · rw [if_pos (by simpa using hq), abs_of_nonneg hq, abs_of_nonneg (by linarith)]
    field_simp
    ring

theorem pattern_eq_of_value_eq {x y : Double} (hsign : x.isNegative = y.isNegative)
    (h : x.value = y.value) : x.pattern = y.pattern := by
  have hone : (one : ℚ) ≠ 0 := by exact_mod_cast one_pos.ne'
  refine strictMono_unitsOfPattern.injective ?_
  rw [value, value, hsign] at h
  cases hneg : y.isNegative with
  | true =>
    rw [if_pos hneg, if_pos hneg, neg_inj, div_left_inj' hone] at h
    exact_mod_cast h
  | false =>
    rw [if_neg (by simp [hneg]), if_neg (by simp [hneg]), div_left_inj' hone] at h
    exact_mod_cast h

/-- Two doubles that a number is rounded to would be equally near and both even, so that a third one
lies between them and is nearer. -/
theorem IsNearest.pattern_not_lt {x y : Double} {q : ℚ} (hx : x.IsNearest q) (hy : y.IsNearest q) :
    ¬ x.pattern < y.pattern := by
  intro hlt
  have hdist := le_antisymm (hx.near y hy.isNaN) (hy.near x hx.isNaN)
  have hne : x.value ≠ y.value := fun h =>
    hlt.ne (pattern_eq_of_value_eq (hx.sign.trans hy.sign.symm) h)
  have hevenx := hx.even y hy.isNaN hdist hne
  have heveny := hy.even x hx.isNaN hdist.symm hne.symm
  have hinfinity := isNaN_eq_false_iff.1 hy.isNaN
  -- The third double.
  have hz : x.pattern + 1 ≤ infinityPattern := by omega
  have hpattern := pattern_ofPattern hz x.isNegative
  have hnear := hx.near (ofPattern x.isNegative (x.pattern + 1))
    (isNaN_eq_false_iff.2 (by rwa [hpattern]))
  have hone : (0 : ℚ) < one := by exact_mod_cast one_pos
  have hbelow : (x.units : ℚ) < (ofPattern x.isNegative (x.pattern + 1)).units := by
    rw [units, units, hpattern]
    exact_mod_cast strictMono_unitsOfPattern (Nat.lt_succ_self _)
  have habove : ((ofPattern x.isNegative (x.pattern + 1)).units : ℚ) < y.units := by
    rw [units, units, hpattern]
    exact_mod_cast strictMono_unitsOfPattern (by omega : x.pattern + 1 < y.pattern)
  have hdist' := congrArg (· * (one : ℚ)) hdist
  have hnear' := mul_le_mul_of_nonneg_right hnear hone.le
  rw [abs_sub_value_of_sign hx.sign, abs_sub_value_of_sign hy.sign] at hdist'
  rw [abs_sub_value_of_sign hx.sign, abs_sub_value_of_sign
    ((isNegative_ofPattern hz x.isNegative).trans hx.sign)] at hnear'
  rcases abs_cases (|q| * one - x.units) with h₁ | h₁ <;>
    rcases abs_cases (|q| * one - y.units) with h₂ | h₂ <;>
    rcases abs_cases (|q| * one - (ofPattern x.isNegative (x.pattern + 1)).units) with h₃ | h₃ <;>
    linarith

/-- **A number is rounded to one double only.** -/
theorem IsNearest.unique {x y : Double} {q : ℚ} (hx : x.IsNearest q) (hy : y.IsNearest q) :
    x = y := by
  refine eq_of_pattern_eq (hx.sign.trans hy.sign.symm) ?_
  have hle := hx.pattern_not_lt hy
  have hge := hy.pattern_not_lt hx
  omega

end Double

namespace RoundingInterval

/-- A number of half units lies in the interval. -/
def Covers (i : RoundingInterval) (h : ℚ) : Prop :=
  if i.closed then i.low ≤ h ∧ h ≤ i.high else i.low < h ∧ h < i.high

theorem contains_iff_covers {i : RoundingInterval} {num den : Nat} (hden : 0 < den) :
    i.contains num den = true ↔ i.Covers (num / den) := by
  have hden' : (0 : ℚ) < den := by exact_mod_cast hden
  unfold contains Covers
  split_ifs
  · rw [le_div_iff₀ hden', div_le_iff₀ hden']
    norm_cast
    simp
  · rw [lt_div_iff₀ hden', div_lt_iff₀ hden']
    norm_cast
    simp

theorem Covers.low_le {i : RoundingInterval} {h : ℚ} (hi : i.Covers h) : i.low ≤ h := by
  unfold Covers at hi
  split_ifs at hi
  · exact hi.1
  · exact hi.1.le

theorem Covers.le_high {i : RoundingInterval} {h : ℚ} (hi : i.Covers h) : h ≤ i.high := by
  unfold Covers at hi
  split_ifs at hi
  · exact hi.2
  · exact hi.2.le

/-- Only an interval of an even pattern has its end points. -/
theorem Covers.even_of_end {k : Nat} {h : ℚ} (hi : (ofPattern k).Covers h)
    (hend : h = (ofPattern k).low ∨ h = (ofPattern k).high) : k % 2 = 0 := by
  by_contra hodd
  have hclosed : (ofPattern k).closed = false := by simpa [ofPattern] using hodd
  rw [Covers, hclosed, if_neg (by simp)] at hi
  rcases hend with rfl | rfl
  · exact lt_irrefl _ hi.1
  · exact lt_irrefl _ hi.2

/-- What lies in the interval of a pattern is nearer to it than to any other one, or it lies at an
end and the pattern is even. -/
theorem Covers.lt_or_even {k j : Nat} {r : ℚ} (hr : (ofPattern k).Covers (2 * r)) (hj : j ≠ k) :
    |r - Double.unitsOfPattern k| < |r - Double.unitsOfPattern j| ∨
      |r - Double.unitsOfPattern k| = |r - Double.unitsOfPattern j| ∧ k % 2 = 0 := by
  have hlow := hr.low_le
  have hhigh := hr.le_high
  have hend := hr.even_of_end
  simp only [ofPattern, Nat.cast_add] at hlow hhigh hend
  have hmono : ∀ {m n : Nat}, m ≤ n → (Double.unitsOfPattern m : ℚ) ≤ Double.unitsOfPattern n :=
    fun h => by exact_mod_cast Double.strictMono_unitsOfPattern.monotone h
  have hlt : ∀ {m n : Nat}, m < n → (Double.unitsOfPattern m : ℚ) < Double.unitsOfPattern n :=
    fun h => by exact_mod_cast Double.strictMono_unitsOfPattern h
  rcases Nat.lt_or_gt_of_ne hj with hjk | hkj
  · have hprevious := hmono (Nat.le_sub_one_of_lt hjk)
    have hbelow := hlt (Nat.sub_one_lt_of_lt hjk)
    rw [abs_of_nonneg (by linarith : 0 ≤ r - Double.unitsOfPattern j)]
    rcases lt_or_eq_of_le hlow with hlow | hlow
    · exact .inl (abs_lt.2 ⟨by linarith, by linarith⟩)
    · rcases lt_or_eq_of_le hprevious with hprevious | hprevious
      · exact .inl (abs_lt.2 ⟨by linarith, by linarith⟩)
      · refine .inr ⟨?_, hend (.inl hlow.symm)⟩
        rw [abs_of_nonpos (by linarith)]
        linarith
  · have hnext := hmono (Nat.succ_le_of_lt hkj)
    have habove := hlt (Nat.lt_succ_self k)
    rw [abs_of_nonpos (by linarith : r - Double.unitsOfPattern j ≤ 0)]
    rcases lt_or_eq_of_le hhigh with hhigh | hhigh
    · exact .inl (abs_lt.2 ⟨by linarith, by linarith⟩)
    · rcases lt_or_eq_of_le hnext with hnext | hnext
      · exact .inl (abs_lt.2 ⟨by linarith, by linarith⟩)
      · refine .inr ⟨?_, hend (.inr hhigh)⟩
        rw [abs_of_nonneg (by linarith)]
        linarith

end RoundingInterval

namespace Double

variable {x : Double} {q : ℚ}

theorem lt_or_even_of_covers (hpattern : x.pattern ≠ 0) (hsign : x.isNegative = decide (q < 0))
    (hcovers : (RoundingInterval.ofPattern x.pattern).Covers (2 * (|q| * one))) {y : Double}
    (hy : y ≠ x) :
    |q - x.value| < |q - y.value| ∨ |q - x.value| = |q - y.value| ∧ x.pattern % 2 = 0 := by
  have hone : (0 : ℚ) < one := by exact_mod_cast one_pos
  suffices h : |q - x.value| * one < |q - y.value| * one ∨
      |q - x.value| * one = |q - y.value| * one ∧ x.pattern % 2 = 0 by
    refine h.imp (lt_of_mul_lt_mul_right · hone.le) fun h => ⟨?_, h.2⟩
    exact mul_right_cancel₀ hone.ne' h.1
  rw [abs_sub_value_of_sign hsign]
  by_cases hsign' : y.isNegative = decide (q < 0)
  · rw [abs_sub_value_of_sign hsign']
    refine hcovers.lt_or_even fun hpattern' => hy ?_
    exact eq_of_pattern_eq (hsign'.trans hsign.symm) hpattern'
  · -- Zero lies between the number and a double of the other sign.
    have hzero := hcovers.lt_or_even hpattern.symm
    have hunits : (0 : ℚ) ≤ y.units := Nat.cast_nonneg _
    have hsize : 0 ≤ |q| * one := mul_nonneg (abs_nonneg q) hone.le
    rw [abs_sub_value_of_sign_ne hsign']
    rw [unitsOfPattern_of_lt binade_pos, Nat.cast_zero, sub_zero, abs_of_nonneg hsize] at hzero
    rcases hzero with hlt | ⟨heq, heven⟩
    · exact .inl (hlt.trans_le (by linarith))
    · rw [units, heq]
      rcases lt_or_eq_of_le hunits with hpos | hunits
      · exact .inl (by linarith)
      · exact .inr ⟨by linarith, heven⟩

/-- **What lies in the rounding interval of a double is rounded to it.** -/
theorem isNearest_of_covers (hnumber : x.isNaN = false) (hpattern : x.pattern ≠ 0)
    (hsign : x.isNegative = decide (q < 0))
    (hcovers : (RoundingInterval.ofPattern x.pattern).Covers (2 * (|q| * one))) :
    x.IsNearest q where
  isNaN := hnumber
  sign := hsign
  near y _ := by
    by_cases hy : y = x
    · rw [hy]
    · rcases lt_or_even_of_covers hpattern hsign hcovers hy with hlt | ⟨heq, -⟩
      · exact hlt.le
      · exact heq.le
  even y _ heq hne := by
    have hy : y ≠ x := fun h => hne (by rw [h])
    rcases lt_or_even_of_covers hpattern hsign hcovers hy with hlt | ⟨-, heven⟩
    · exact absurd heq hlt.ne
    · exact heven

end Double

end SceneScript
