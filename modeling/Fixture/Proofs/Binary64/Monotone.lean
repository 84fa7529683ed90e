import Fixture.Proofs.Binary64.Nearest

/-!
# Rounding is monotone

A larger number is never rounded to a smaller double. Within one binade this is so because the
whole numbers in the middle are compared, and from one binade to a later one because the
rounding never leaves its own by more than its end. Together with the doubles being kept it
follows that doubles are in the order of their ordinals, and that a sum with terms of opposite
signs is no further from zero than one of them.
-/

namespace Fixture

namespace Binary64

variable {den : Nat}

theorem div_le_divideEven (num den : Nat) : num / den ≤ divideEven num den := by
  unfold divideEven
  dsimp only
  split
  · exact Nat.le_refl _
  · exact Nat.le_succ _

theorem divideEven_le_div_succ (num den : Nat) : divideEven num den ≤ num / den + 1 := by
  unfold divideEven
  dsimp only
  split
  · exact Nat.le_succ _
  · exact Nat.le_refl _

theorem divideEven_mono {num more : Nat} (h : num ≤ more) :
    divideEven num den ≤ divideEven more den := by
  rcases Nat.lt_or_ge (num / den) (more / den) with hlt | hge
  · exact Nat.le_trans (divideEven_le_div_succ num den)
      (Nat.le_trans hlt (div_le_divideEven more den))
  · have hquotient : num / den = more / den := Nat.le_antisymm (Nat.div_le_div_right h) hge
    have hrest : num % den ≤ more % den := by
      have hnum := Nat.div_add_mod num den
      have hmore := Nat.div_add_mod more den
      rw [hquotient] at hnum
      omega
    unfold divideEven
    dsimp only
    rw [hquotient]
    split
    · split
      · exact Nat.le_refl _
      · exact Nat.le_succ _
    · split
      · omega
      · exact Nat.le_refl _

/-- By how many bits a quotient is longer than what a double keeps. -/
def excess (quotient : Nat) : Nat :=
  if quotient < 2 * binade then 0 else quotient.log2 - 52

theorem nearest_eq (num den : Nat) :
    nearest num den = min (excess (num / den) * binade +
      divideEven num (den <<< excess (num / den))) infinityOrdinal := rfl

theorem lt_of_excess (q : Nat) : q < 2 * binade * 2 ^ excess q := by
  unfold excess
  split
  · rwa [Nat.pow_zero, Nat.mul_one]
  · rename_i hlarge
    have hbinade : binade = 2 ^ 52 := rfl
    have hne : q ≠ 0 := by omega
    have hlog : 52 ≤ q.log2 := (Nat.le_log2 hne).2 (by omega)
    have hsize : 2 * binade * 2 ^ (q.log2 - 52) = 2 ^ (q.log2 + 1) := by
      rw [hbinade, ← Nat.pow_succ', ← Nat.pow_add]
      congr 1
      omega
    rw [hsize]
    exact (Nat.log2_lt hne).1 (Nat.lt_succ_self _)

theorem le_of_excess {q : Nat} (h : 0 < excess q) : binade * 2 ^ excess q ≤ q := by
  unfold excess at h ⊢
  split at h
  · exact absurd h (Nat.lt_irrefl 0)
  · rename_i hlarge
    have hbinade : binade = 2 ^ 52 := rfl
    have hne : q ≠ 0 := by omega
    have hsize : binade * 2 ^ (q.log2 - 52) = 2 ^ q.log2 := by
      rw [hbinade, ← Nat.pow_add]
      congr 1
      omega
    rw [if_neg hlarge, hsize]
    exact (Nat.le_log2 hne).1 (Nat.le_refl _)

theorem lt_of_excess_lt {q r : Nat} (h : excess q < excess r) : q < r := by
  have hlow := le_of_excess (Nat.zero_lt_of_lt h)
  have hpow : 2 ^ (excess q + 1) ≤ 2 ^ excess r := Nat.pow_le_pow_right (by decide) h
  calc q < 2 * binade * 2 ^ excess q := lt_of_excess q
    _ = binade * 2 ^ (excess q + 1) := by rw [Nat.pow_succ, Nat.mul_comm 2, Nat.mul_assoc,
        Nat.mul_comm 2]
    _ ≤ binade * 2 ^ excess r := Nat.mul_le_mul_left _ hpow
    _ ≤ r := hlow

theorem divideEven_le_of_excess (num den : Nat) :
    divideEven num (den <<< excess (num / den)) ≤ 2 * binade := by
  have hquotient : num / (den <<< excess (num / den)) < 2 * binade := by
    rw [Nat.shiftLeft_eq, ← Nat.div_div_eq_div_mul]
    exact Nat.div_lt_of_lt_mul (Nat.mul_comm _ _ ▸ lt_of_excess (num / den))
  exact Nat.le_trans (divideEven_le_div_succ _ _) hquotient

theorem le_divideEven_of_excess {num den : Nat} (h : 0 < excess (num / den)) :
    binade ≤ divideEven num (den <<< excess (num / den)) := by
  refine Nat.le_trans ?_ (div_le_divideEven _ _)
  rw [Nat.shiftLeft_eq, ← Nat.div_div_eq_div_mul, Nat.le_div_iff_mul_le (Nat.two_pow_pos _)]
  exact le_of_excess h

/-- A larger number is never rounded to a smaller double. -/
theorem nearest_mono {num more : Nat} (h : num ≤ more) : nearest num den ≤ nearest more den := by
  have hquotient : num / den ≤ more / den := Nat.div_le_div_right h
  rw [nearest_eq, nearest_eq]
  refine Nat.le_min.2 ⟨Nat.le_trans (Nat.min_le_left _ _) ?_, Nat.min_le_right _ _⟩
  -- with equal excesses both are rounded to the same grid, and else a binade lies between them
  rcases Nat.lt_trichotomy (excess (num / den)) (excess (more / den)) with hlt | heq | hgt
  · have hlow := le_divideEven_of_excess (Nat.zero_lt_of_lt hlt)
    have hhigh := divideEven_le_of_excess num den
    have hsucc : (excess (num / den) + 1) * binade ≤ excess (more / den) * binade :=
      Nat.mul_le_mul_right _ hlt
    rw [Nat.succ_mul] at hsucc
    omega
  · rw [heq]
    exact Nat.add_le_add_left (divideEven_mono h) _
  · exact absurd (lt_of_excess_lt hgt) (Nat.not_lt.2 hquotient)

theorem divideEven_mul_mul (num den : Nat) {scale : Nat} (h : 0 < scale) :
    divideEven (num * scale) (den * scale) = divideEven num den := by
  have hless : 2 * (num % den * scale) < den * scale ↔ 2 * (num % den) < den := by
    rw [← Nat.mul_assoc]
    exact Nat.mul_lt_mul_right h
  have hequal : 2 * (num % den * scale) = den * scale ↔ 2 * (num % den) = den := by
    rw [← Nat.mul_assoc]
    exact Nat.mul_left_inj (Nat.ne_of_gt h)
  unfold divideEven
  simp only [Nat.mul_div_mul_right _ _ h, Nat.mul_mod_mul_right, hless, hequal]

theorem nearest_mul_self (num : Nat) (h : 0 < den) : nearest (num * den) den = nearest num 1 := by
  have hdivide := divideEven_mul_mul num (2 ^ excess num) h
  rw [nearest_eq, nearest_eq, Nat.mul_div_cancel _ h, Nat.div_one, Nat.shiftLeft_eq,
    Nat.one_shiftLeft, Nat.mul_comm den, hdivide]

theorem nearest_le_of_le_units {num k : Nat} (hk : k ≤ infinityOrdinal) (h : num ≤ units k) :
    nearest num 1 ≤ k := by
  have hmono : nearest num 1 ≤ nearest (units k) 1 := nearest_mono h
  rwa [nearest_units hk] at hmono

theorem units_mono {j k : Nat} (hk : k ≤ infinityOrdinal) (h : j ≤ k) : units j ≤ units k := by
  rcases Nat.lt_or_ge (units k) (units j) with hlt | hge
  · have hle := nearest_le_of_le_units (Nat.le_trans h hk) (Nat.le_of_lt hlt)
    rw [nearest_units hk] at hle
    exact Nat.le_of_eq (congrArg units (Nat.le_antisymm h hle))
  · exact hge

theorem units_lt_units {j k : Nat} (hk : k ≤ infinityOrdinal) (h : j < k) :
    units j < units k := by
  refine Nat.lt_of_le_of_ne (units_mono hk (Nat.le_of_lt h)) ?_
  intro heq
  have hj := nearest_units (Nat.le_trans (Nat.le_of_lt h) hk)
  rw [heq, nearest_units hk] at hj
  exact Nat.ne_of_gt h hj

section Finite

variable {x y : Binary64}

theorem value_neg (x : Binary64) : (neg x).value = -x.value := by
  rw [neg, value, value, negative_ofOrdinal _ x.ordinal_lt, ordinal_ofOrdinal _ x.ordinal_lt]
  cases x.negative <;> simp

/-- Of finite doubles the smaller one has the smaller value. -/
theorem value_lt_of_lt (hx : x.isFinite) (hy : y.isFinite) (h : x.lt y) : x.value < y.value := by
  have hrank : x.rank < y.rank := by simpa [lt, isNaN_of_isFinite hx, isNaN_of_isFinite hy] using h
  have hxk := Nat.le_of_lt (isFinite_iff.1 hx)
  have hyk := Nat.le_of_lt (isFinite_iff.1 hy)
  have hxzero := units_eq_zero_iff (k := x.ordinal)
  have hyzero := units_eq_zero_iff (k := y.ordinal)
  unfold rank at hrank
  unfold value
  cases hxneg : x.negative <;> cases hyneg : y.negative <;>
    simp only [hxneg, hyneg, if_true, if_false, Bool.false_eq_true] at hrank ⊢
  · have hlt := units_lt_units hyk (show x.ordinal < y.ordinal by omega)
    omega
  · omega
  · omega
  · have hlt := units_lt_units hxk (show y.ordinal < x.ordinal by omega)
    omega

/-- The sum of finite doubles, with the sign that it has when it is not zero. -/
theorem add_of_isFinite (hx : x.isFinite) (hy : y.isFinite) (h : x.value + y.value ≠ 0) :
    add x y = ofOrdinal (x.value + y.value < 0) (nearest (x.value + y.value).natAbs 1) := by
  rw [add, isNaN_of_isFinite hx, isNaN_of_isFinite hy, isInfinite_of_isFinite hx,
    isInfinite_of_isFinite hy]
  simp [h]

theorem value_ofOrdinal (negative : Bool) {k : Nat} (hk : k ≤ infinityOrdinal) :
    (ofOrdinal negative k).value = if negative then -(units k : Int) else (units k : Int) := by
  have hsign : infinityOrdinal < signBit := by decide
  have hlt : k < signBit := by omega
  rw [value, negative_ofOrdinal _ hlt, ordinal_ofOrdinal _ hlt]

theorem value_ofOrdinal_false {k : Nat} (hk : k ≤ infinityOrdinal) :
    (ofOrdinal false k).value = units k := by
  rw [value_ofOrdinal false hk]
  rfl

theorem isFinite_add_of_opposite (hx : x.isFinite) (hy : y.isFinite) (hpos : 0 ≤ x.value)
    (hneg : y.value ≤ 0) : (add x y).isFinite := by
  by_cases hsum : x.value + y.value = 0
  · have hzero : add x y = ofOrdinal (x.negative && y.negative) 0 := by
      rw [add, isNaN_of_isFinite hx, isNaN_of_isFinite hy, isInfinite_of_isFinite hx,
        isInfinite_of_isFinite hy]
      simp [hsum]
    rw [hzero]
    exact isFinite_ofOrdinal _ (by decide)
  · rw [add_of_isFinite hx hy hsum]
    apply isFinite_ofOrdinal
    have hxabs := natAbs_value x
    have hyabs := natAbs_value y
    have hxk := isFinite_iff.1 hx
    have hyk := isFinite_iff.1 hy
    rcases Int.le_total 0 (x.value + y.value) with hge | hle
    · have hle := nearest_le_of_le_units (Nat.le_of_lt hxk)
        (show (x.value + y.value).natAbs ≤ units x.ordinal by omega)
      omega
    · have hle := nearest_le_of_le_units (Nat.le_of_lt hyk)
        (show (x.value + y.value).natAbs ≤ units y.ordinal by omega)
      omega

theorem nearest_le (num den : Nat) : nearest num den ≤ infinityOrdinal :=
  Nat.min_le_right _ _

/-- A sum below a finite double is finite if one term is not negative. -/
theorem isFinite_add_of_lt {z : Binary64} (hx : x.isFinite) (hy : y.isFinite)
    (hpos : 0 ≤ x.value) (hz : z.isFinite) (h : (add x y).lt z) : (add x y).isFinite := by
  rcases Int.lt_or_le 0 y.value with hypos | hyneg
  · have hsign : infinityOrdinal < signBit := by decide
    have hle := nearest_le (x.value + y.value).natAbs 1
    have hsum : add x y = ofOrdinal false (nearest (x.value + y.value).natAbs 1) := by
      rw [add_of_isFinite hx hy (by omega), decide_eq_false (by omega)]
    have hrank : (add x y).rank < z.rank := by
      simp only [lt, Bool.and_eq_true, decide_eq_true_eq] at h
      exact h.2
    have hzrank : z.rank ≤ z.ordinal := by
      unfold rank
      split <;> omega
    have hzk := isFinite_iff.1 hz
    rw [hsum, rank_ofOrdinal false (by omega)] at hrank
    rw [hsum]
    apply isFinite_ofOrdinal
    simp only [Bool.false_eq_true, if_false] at hrank
    omega
  · exact isFinite_add_of_opposite hx hy hpos hyneg

theorem negative_sub_of_lt (hx : x.isFinite) (hy : y.isFinite) (h : x.lt y) :
    (sub y x).negative = false := by
  have hsign : infinityOrdinal < signBit := by decide
  have hle := nearest_le (y.value + (neg x).value).natAbs 1
  have hlt := value_lt_of_lt hx hy h
  have hneg := value_neg x
  rw [sub, add_of_isFinite hy (isFinite_neg.trans hx) (by omega),
    negative_ofOrdinal _ (by omega)]
  exact decide_eq_false (by omega)

theorem unitsInOne_ne_zero : unitsInOne ≠ 0 := by decide +kernel

theorem mul_ofOrdinal {k : Nat} (hk : k < infinityOrdinal) (hy : y.isFinite)
    (hsign : y.negative = false) :
    mul (ofOrdinal false k) y =
      ofOrdinal false (nearest (units k * units y.ordinal) unitsInOne) := by
  have hlt : infinityOrdinal < signBit := by decide
  have hfinite := isFinite_ofOrdinal false hk
  rw [mul, isNaN_of_isFinite hfinite, isNaN_of_isFinite hy, isInfinite_of_isFinite hfinite,
    isInfinite_of_isFinite hy, negative_ofOrdinal _ (by omega), hsign,
    ordinal_ofOrdinal _ (by omega)]
  rfl

/-- A product with a factor of at most one is no larger than the other factor. -/
theorem mul_ofOrdinal_eq {k : Nat} (hk : k < infinityOrdinal) (hunit : units k ≤ unitsInOne)
    (hy : y.isFinite) (hsign : y.negative = false) :
    ∃ j ≤ y.ordinal, mul (ofOrdinal false k) y = ofOrdinal false j := by
  refine ⟨nearest (units k * units y.ordinal) unitsInOne, ?_, mul_ofOrdinal hk hy hsign⟩
  calc nearest (units k * units y.ordinal) unitsInOne
      ≤ nearest (units y.ordinal * unitsInOne) unitsInOne := by
        apply nearest_mono
        rw [Nat.mul_comm (units y.ordinal)]
        exact Nat.mul_le_mul_right _ hunit
    _ = nearest (units y.ordinal) 1 := nearest_mul_self _ (Nat.pos_of_ne_zero unitsInOne_ne_zero)
    _ = y.ordinal := nearest_units (Nat.le_of_lt (isFinite_iff.1 hy))

end Finite

end Binary64

end Fixture
