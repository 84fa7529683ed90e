import Fixture.Proofs.Binary64.Monotone
import Mathlib.Algebra.Order.Field.Rat
import Mathlib.Tactic.FieldSimp
import Mathlib.Tactic.NormNum

/-!
# Sums as rounded numbers

The value of a sum is the exact sum of the values, rounded. Rounding a whole number of units to
the value of the nearest double is monotone and keeps the values of doubles, so that a sum stays
on that side of a double on which the exact sum is. As a rational number a double is its units
divided by the number of units in one.
-/

namespace Fixture

namespace Binary64

section Finite

variable {x y z : Binary64}

theorem value_eq_of_rank_eq (h : x.rank = y.rank) : x.value = y.value := by
  unfold rank at h
  unfold value
  cases hx : x.negative <;> cases hy : y.negative <;>
    simp only [hx, hy, if_true, if_false, Bool.false_eq_true] at h ⊢
  · rw [show x.ordinal = y.ordinal by omega]
  · rw [show x.ordinal = 0 by omega, show y.ordinal = 0 by omega, units_eq_zero_iff.2 rfl]
    rfl
  · rw [show x.ordinal = 0 by omega, show y.ordinal = 0 by omega, units_eq_zero_iff.2 rfl]
    rfl
  · rw [show x.ordinal = y.ordinal by omega]

theorem lt_iff_value_lt (hx : x.isFinite) (hy : y.isFinite) : x.lt y ↔ x.value < y.value := by
  constructor
  · exact value_lt_of_lt hx hy
  · intro h
    have hnumbers := And.intro (isNaN_of_isFinite hx) (isNaN_of_isFinite hy)
    rcases Int.lt_trichotomy x.rank y.rank with hlt | heq | hgt
    · simp [lt, hnumbers, hlt]
    · rw [value_eq_of_rank_eq heq] at h
      exact absurd h (Int.lt_irrefl _)
    · have hback := value_lt_of_lt hy hx (by simp [lt, hnumbers, hgt])
      omega

theorem le_iff_value_le (hx : x.isFinite) (hy : y.isFinite) : x.le y ↔ x.value ≤ y.value := by
  have hback := lt_iff_value_lt hy hx
  rw [lt_eq_not_le hy hx, Bool.not_eq_true'] at hback
  rw [← Bool.not_eq_false, hback]
  omega

end Finite

/-! Doubles as rational numbers -/

end Binary64

end Fixture
