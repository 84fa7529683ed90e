import Fixture.Binary64.Arithmetic
import Mathlib.Algebra.Group.Nat.Defs

/-!
# Rounding keeps doubles

Rounding takes every number that is a double to that double: `nearest (units k) 1 = k`. So an
operation whose exact result is a double gives it, and a zero that is added changes no place
in the order.
-/

namespace Fixture

namespace Binary64

theorem units_of_lt {k : Nat} (h : k < 2 * binade) : units k = k := if_pos h

/-- From ordinal 2⁵³ on, a double is a whole number of 53 bits times a power of two. -/
theorem units_of_le {k : Nat} (h : 2 * binade ≤ k) :
    units k = (binade + k % binade) * 2 ^ (k / binade - 1) := by
  rw [units, if_neg (Nat.not_lt.2 h), Nat.shiftLeft_eq]

theorem divideEven_mul_right (n : Nat) {den : Nat} (hden : 0 < den) :
    divideEven (n * den) den = n := by
  unfold divideEven
  rw [Nat.mul_mod_left, Nat.mul_div_cancel n hden]
  exact if_pos (Or.inl hden)

theorem log2_mantissa {m : Nat} (hlow : binade ≤ m) (hhigh : m < 2 * binade) (e : Nat) :
    (m * 2 ^ e).log2 = 52 + e := by
  have hpos : 0 < 2 ^ e := Nat.two_pow_pos e
  have hbinade : binade = 2 ^ 52 := rfl
  have hne : m * 2 ^ e ≠ 0 := by
    rw [Nat.mul_ne_zero_iff]
    omega
  rw [Nat.log2_eq_iff hne]
  constructor
  · rw [Nat.pow_add, ← hbinade]
    exact Nat.mul_le_mul_right _ hlow
  · rw [show 52 + e + 1 = 53 + e by omega, Nat.pow_add]
    exact Nat.mul_lt_mul_of_pos_right (by omega) hpos

/-- Rounding keeps what is a double. -/
theorem nearest_units {k : Nat} (h : k ≤ infinityOrdinal) : nearest (units k) 1 = k := by
  have hbinade : 0 < binade := by decide
  unfold nearest
  dsimp only
  rw [Nat.div_one]
  rcases Nat.lt_or_ge k (2 * binade) with hk | hk
  · have hdivide := divideEven_mul_right k Nat.one_pos
    rw [Nat.mul_one] at hdivide
    rw [units_of_lt hk, if_pos hk, Nat.zero_mul, Nat.zero_add, Nat.shiftLeft_zero, hdivide]
    exact Nat.min_eq_left h
  · have hmod : k % binade < binade := Nat.mod_lt k hbinade
    have hquotient : 2 ≤ k / binade := (Nat.le_div_iff_mul_le hbinade).2 hk
    have hsplit : binade * (k / binade) + k % binade = k := Nat.div_add_mod k binade
    rw [units_of_le hk]
    generalize he : k / binade - 1 = e
    have hpos : 0 < 2 ^ e := Nat.two_pow_pos e
    have htwo : 2 ≤ 2 ^ e := by
      have := Nat.pow_le_pow_right (n := 2) (by decide) (show 1 ≤ e by omega)
      omega
    have hlarge : ¬ (binade + k % binade) * 2 ^ e < 2 * binade := by
      have := Nat.mul_le_mul (show binade ≤ binade + k % binade by omega) htwo
      omega
    rw [if_neg hlarge, log2_mantissa (by omega) (by omega), Nat.add_sub_cancel_left,
      Nat.one_shiftLeft, divideEven_mul_right _ hpos]
    have hsum : e * binade + (binade + k % binade) = k := by
      have hsucc : k / binade = e + 1 := by omega
      rw [hsucc, Nat.mul_add, Nat.mul_comm binade e, Nat.mul_one] at hsplit
      omega
    rw [hsum]
    exact Nat.min_eq_left h

theorem nearest_zero {den : Nat} (h : 0 < den) : nearest 0 den = 0 := by
  have hne : den ≠ 0 := Nat.ne_of_gt h
  simp [nearest, divideEven, hne]

theorem ordinal_lt (x : Binary64) : x.ordinal < signBit := Nat.mod_lt _ (by decide)

theorem ordinal_ofOrdinal (negative : Bool) {k : Nat} (h : k < signBit) :
    (ofOrdinal negative k).ordinal = k := by
  have hsign : signBit + signBit = 2 ^ 64 := by decide
  cases negative
  · simp only [ofOrdinal, ordinal, UInt64.toNat_ofNat', Bool.false_eq_true, if_false]
    rw [Nat.mod_eq_of_lt (show k < 2 ^ 64 by omega), Nat.mod_eq_of_lt h]
  · simp only [ofOrdinal, ordinal, UInt64.toNat_ofNat', if_true]
    rw [Nat.mod_eq_of_lt (show signBit + k < 2 ^ 64 by omega), Nat.add_mod_left,
      Nat.mod_eq_of_lt h]

theorem negative_ofOrdinal (negative : Bool) {k : Nat} (h : k < signBit) :
    (ofOrdinal negative k).negative = negative := by
  have hsign : signBit + signBit = 2 ^ 64 := by decide
  cases negative
  · simp only [ofOrdinal, Binary64.negative, UInt64.toNat_ofNat', Bool.false_eq_true, if_false]
    rw [Nat.mod_eq_of_lt (by omega)]
    exact decide_eq_false (by omega)
  · simp only [ofOrdinal, Binary64.negative, UInt64.toNat_ofNat', if_true]
    rw [Nat.mod_eq_of_lt (by omega)]
    exact decide_eq_true (by omega)

theorem isFinite_iff {x : Binary64} : x.isFinite ↔ x.ordinal < infinityOrdinal := by
  rw [isFinite, decide_eq_true_eq]

theorem isNaN_of_isFinite {x : Binary64} (h : x.isFinite) : x.isNaN = false := by
  rw [isFinite_iff] at h
  exact decide_eq_false (by omega)

theorem isInfinite_of_isFinite {x : Binary64} (h : x.isFinite) : x.isInfinite = false := by
  rw [isFinite_iff] at h
  exact decide_eq_false (by omega)

theorem isFinite_ofOrdinal (negative : Bool) {k : Nat} (h : k < infinityOrdinal) :
    (ofOrdinal negative k).isFinite := by
  have hsign : infinityOrdinal < signBit := by decide
  rw [isFinite_iff, ordinal_ofOrdinal negative (by omega)]
  exact h

theorem rank_ofOrdinal (negative : Bool) {k : Nat} (h : k < signBit) :
    (ofOrdinal negative k).rank = if negative then -(k : Int) else (k : Int) := by
  rw [rank, negative_ofOrdinal negative h, ordinal_ofOrdinal negative h]

theorem units_eq_zero_iff {k : Nat} : units k = 0 ↔ k = 0 := by
  rcases Nat.lt_or_ge k (2 * binade) with hk | hk
  · rw [units_of_lt hk]
  · have hbinade : 0 < binade := by decide
    have hpos : 0 < (binade + k % binade) * 2 ^ (k / binade - 1) :=
      Nat.mul_pos (by omega) (Nat.two_pow_pos _)
    rw [units_of_le hk]
    omega

theorem natAbs_value (x : Binary64) : x.value.natAbs = units x.ordinal := by
  unfold value
  split <;> omega

theorem decide_value_neg {x : Binary64} (h : x.ordinal ≠ 0) :
    decide (x.value < 0) = x.negative := by
  have hpos : units x.ordinal ≠ 0 := by
    rwa [ne_eq, units_eq_zero_iff]
  unfold value
  cases x.negative
  · simp
  · simp only [if_true, decide_eq_true_eq]
    omega

theorem zero_add_eq (negative : Bool) {x : Binary64} (h : x.isFinite) :
    ∃ sign, add (ofOrdinal negative 0) x = ofOrdinal sign x.ordinal ∧
      (ofOrdinal sign x.ordinal).rank = x.rank := by
  have hzero : (ofOrdinal negative 0).isFinite := isFinite_ofOrdinal negative (by decide)
  have hvalue : (ofOrdinal negative 0).value = 0 := by
    cases negative <;> decide +kernel
  have hfinite := isFinite_iff.1 h
  rw [add, isNaN_of_isFinite hzero, isNaN_of_isFinite h, isInfinite_of_isFinite hzero,
    isInfinite_of_isFinite h, hvalue]
  simp only [Bool.or_false, Bool.false_eq_true, if_false, Int.zero_add, natAbs_value,
    nearest_units (Nat.le_of_lt hfinite)]
  by_cases hordinal : x.ordinal = 0
  · have hx : x.value = 0 := by
      rw [← Int.natAbs_eq_zero, natAbs_value, units_eq_zero_iff]
      exact hordinal
    rw [if_pos hx, hordinal]
    refine ⟨_, rfl, ?_⟩
    rw [rank_ofOrdinal _ (by decide), rank, hordinal]
    simp
  · have hx : ¬ x.value = 0 := by
      rwa [← Int.natAbs_eq_zero, natAbs_value, units_eq_zero_iff]
    rw [if_neg hx]
    refine ⟨_, rfl, ?_⟩
    rw [decide_value_neg hordinal, rank_ofOrdinal _ x.ordinal_lt, rank]

theorem isFinite_zero_add (negative : Bool) {x : Binary64} (h : x.isFinite) :
    (add (ofOrdinal negative 0) x).isFinite := by
  obtain ⟨sign, hsum, _⟩ := zero_add_eq negative h
  rw [hsum]
  exact isFinite_ofOrdinal sign (isFinite_iff.1 h)

theorem rank_zero_add (negative : Bool) {x : Binary64} (h : x.isFinite) :
    (add (ofOrdinal negative 0) x).rank = x.rank := by
  obtain ⟨sign, hsum, hrank⟩ := zero_add_eq negative h
  rw [hsum, hrank]

theorem zero_mul_eq (negative : Bool) {x : Binary64} (h : x.isFinite) :
    ∃ sign, mul (ofOrdinal negative 0) x = ofOrdinal sign 0 := by
  have hzero : (ofOrdinal negative 0).isFinite := isFinite_ofOrdinal negative (by decide)
  have hordinal : units (ofOrdinal negative 0).ordinal = 0 := by
    rw [ordinal_ofOrdinal negative (by decide), units_of_lt (by decide)]
  have hunits : 0 < unitsInOne := by decide +kernel
  rw [mul, isNaN_of_isFinite hzero, isNaN_of_isFinite h, isInfinite_of_isFinite hzero,
    isInfinite_of_isFinite h, hordinal, Nat.zero_mul, nearest_zero hunits]
  exact ⟨_, rfl⟩

theorem isFinite_of_add {x y : Binary64} (h : (add x y).isFinite) :
    x.isFinite ∧ y.isFinite := by
  have hnan : nan.isFinite = false := by decide
  unfold add at h
  split at h
  · simp [hnan] at h
  · rename_i hnumber
    simp only [Bool.or_eq_true, not_or, isNaN, decide_eq_true_eq] at hnumber
    have hinfinite (z : Binary64) (hz : z.isInfinite = true) : z.isFinite = false := by
      simp only [isInfinite, isFinite, decide_eq_true_eq, decide_eq_false_iff_not] at hz ⊢
      omega
    split at h
    · rename_i hx
      split at h
      · simp [hnan] at h
      · simp [hinfinite x hx] at h
    · rename_i hx
      split at h
      · rename_i hy
        simp [hinfinite y hy] at h
      · rename_i hy
        simp only [isInfinite, decide_eq_true_eq] at hx hy
        rw [isFinite_iff, isFinite_iff]
        omega

theorem isFinite_neg {x : Binary64} : (neg x).isFinite = x.isFinite := by
  rw [neg, isFinite, isFinite, ordinal_ofOrdinal _ x.ordinal_lt]

theorem isInfinite_ofOrdinal (negative : Bool) {k : Nat} (h : k ≤ infinityOrdinal) :
    (ofOrdinal negative k).isInfinite = !(ofOrdinal negative k).isFinite := by
  have hsign : infinityOrdinal < signBit := by decide
  rw [isInfinite, isFinite, ordinal_ofOrdinal negative (Nat.lt_of_le_of_lt h hsign),
    ← decide_not, decide_eq_decide]
  omega

/-- The sum of two finite doubles is finite or has gone past the largest one. -/
theorem isInfinite_add {x y : Binary64} (hx : x.isFinite) (hy : y.isFinite) :
    (add x y).isInfinite = !(add x y).isFinite := by
  rw [add, isNaN_of_isFinite hx, isNaN_of_isFinite hy, isInfinite_of_isFinite hx,
    isInfinite_of_isFinite hy]
  simp only [Bool.or_false, Bool.false_eq_true, if_false]
  split
  · exact isInfinite_ofOrdinal _ (Nat.zero_le _)
  · exact isInfinite_ofOrdinal _ (Nat.min_le_right _ _)

theorem isInfinite_sub {x y : Binary64} (hx : x.isFinite) (hy : y.isFinite) :
    (sub x y).isInfinite = !(sub x y).isFinite :=
  isInfinite_add hx (isFinite_neg.trans hy)

theorem le_eq_false_of_lt {x y : Binary64} (h : x.lt y) : y.le x = false := by
  simp only [Binary64.lt, Binary64.le, Bool.and_eq_true, Bool.and_eq_false_iff,
    decide_eq_true_eq, decide_eq_false_iff_not] at h ⊢
  omega

theorem lt_of_le_eq_false {x y : Binary64} (hle : x.le y) (h : y.le x = false) : x.lt y := by
  simp only [Binary64.lt, Binary64.le, Bool.and_eq_true, Bool.and_eq_false_iff,
    decide_eq_true_eq, decide_eq_false_iff_not] at hle h ⊢
  grind

theorem lt_eq_not_le {x y : Binary64} (hx : x.isFinite) (hy : y.isFinite) :
    x.lt y = !y.le x := by
  rw [Binary64.lt, Binary64.le, isNaN_of_isFinite hx, isNaN_of_isFinite hy]
  simp [← decide_not]

theorem le_of_lt_eq_false {x y : Binary64} (hx : x.isFinite) (hy : y.isFinite)
    (h : x.lt y = false) : y.le x := by
  rw [lt_eq_not_le hx hy, Bool.not_eq_false'] at h
  exact h

end Binary64

end Fixture
