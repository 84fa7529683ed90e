import Fixture.Proofs.Random.Yields
import Mathlib.Data.Set.Card
import Mathlib.Order.Interval.Finset.Nat

/-!
# Draws favour no value

The words that choose a position `i` below `n` are those whose product with `n` lies in an
interval that begins at `i * 2 ^ bits`. For every position the interval is as long, `n` times
a power of two, so that as many multiples of `n` lie in it wherever it begins: every position
is chosen by equally many words, and no position is left out.
-/

namespace Fixture

namespace Uniform

variable {bits n : Nat}

/-- How many words choose each position below `n`. -/
def share (bits n : Nat) : Nat :=
  2 ^ (bits - 1 - n.log2)

theorem share_pos (bits n : Nat) : 0 < share bits n :=
  Nat.two_pow_pos _

theorem position?_eq (bits n word : Nat) :
    position? bits n word =
      if word * n % 2 ^ bits < n * share bits n then some (word * n / 2 ^ bits) else none := by
  rw [position?, share, Nat.one_shiftLeft, Nat.shiftLeft_eq]

theorem mul_share_lt (hn : n ≠ 0) (hlt : n < 2 ^ bits) : n * share bits n < 2 ^ bits := by
  have hlog : n.log2 < bits := (Nat.log2_lt hn).2 hlt
  calc n * share bits n < 2 ^ (n.log2 + 1) * 2 ^ (bits - 1 - n.log2) :=
        Nat.mul_lt_mul_of_pos_right Nat.lt_log2_self (share_pos bits n)
    _ = 2 ^ bits := by
        rw [← Nat.pow_add]
        congr 1
        omega

/-- A word chooses a position when its product with `n` lies in the interval that begins there. -/
theorem position?_eq_some_iff (hn : n ≠ 0) (hlt : n < 2 ^ bits) (word position : Nat) :
    position? bits n word = some position ↔
      position * 2 ^ bits ≤ word * n ∧
        word * n < position * 2 ^ bits + n * share bits n := by
  have hshare := mul_share_lt hn hlt
  have hsplit := Nat.div_add_mod' (word * n) (2 ^ bits)
  rw [position?_eq, Option.ite_none_right_eq_some, Option.some.injEq]
  constructor
  · rintro ⟨hzone, rfl⟩
    omega
  · rintro ⟨hlow, hhigh⟩
    have hposition : word * n / 2 ^ bits = position := by
      rw [Nat.div_eq_iff (Nat.two_pow_pos bits)]
      omega
    rw [hposition] at hsplit
    exact ⟨by omega, hposition⟩

/-- The words that choose a position stand in a row, and are as many for each. -/
theorem position?_eq_some_iff_mem_Ico (hn : n ≠ 0) (hlt : n < 2 ^ bits) (word position : Nat) :
    position? bits n word = some position ↔
      word ∈ Finset.Ico ((position * 2 ^ bits + (n - 1)) / n)
        ((position * 2 ^ bits + (n - 1)) / n + share bits n) := by
  have hpos : 0 < n := Nat.pos_of_ne_zero hn
  have hreach (bound : Nat) : (bound + (n - 1)) / n ≤ word ↔ bound ≤ word * n := by
    rw [Nat.div_le_iff_le_mul_add_pred hpos, Nat.mul_comm word n]
    omega
  have hnext : (position * 2 ^ bits + (n - 1)) / n + share bits n =
      (position * 2 ^ bits + n * share bits n + (n - 1)) / n := by
    rw [Nat.add_right_comm, Nat.add_mul_div_left _ _ hpos]
  have hlow := hreach (position * 2 ^ bits)
  have hhigh := hreach (position * 2 ^ bits + n * share bits n)
  rw [position?_eq_some_iff hn hlt, Finset.mem_Ico, hnext, hlow]
  exact and_congr_right fun _ => lt_iff_lt_of_le_iff_le hhigh.symm

theorem word_lt_of_position? (hn : n ≠ 0) (hlt : n < 2 ^ bits) {word position : Nat}
    (hposition : position < n) (h : position? bits n word = some position) :
    word < 2 ^ bits := by
  have hshare := mul_share_lt hn hlt
  rw [position?_eq_some_iff hn hlt] at h
  have hnext : (position + 1) * 2 ^ bits ≤ n * 2 ^ bits := Nat.mul_le_mul_right _ hposition
  rw [Nat.add_mul, Nat.one_mul] at hnext
  have hproduct : n * word < n * 2 ^ bits := by
    rw [Nat.mul_comm n word]
    omega
  exact Nat.lt_of_mul_lt_mul_left hproduct

/-- Every position is chosen by equally many words of 64 bits. -/
theorem ncard_position? (hn : n ≠ 0) (hlt : n < 2 ^ 64) {position : Nat}
    (hposition : position < n) :
    {word : UInt64 | position? 64 n word.toNat = some position}.ncard = share 64 n := by
  have hinjective : Function.Injective UInt64.toNat := fun _ _ h => UInt64.toNat_inj.1 h
  have himage : UInt64.toNat '' {word : UInt64 | position? 64 n word.toNat = some position} =
      Finset.Ico ((position * 2 ^ 64 + (n - 1)) / n)
        ((position * 2 ^ 64 + (n - 1)) / n + share 64 n) := by
    ext word
    rw [Finset.mem_coe, ← position?_eq_some_iff_mem_Ico hn hlt]
    constructor
    · rintro ⟨w, hw, rfl⟩
      exact hw
    · intro h
      have hword := word_lt_of_position? hn hlt hposition h
      have hself : (UInt64.ofNat word).toNat = word := UInt64.toNat_ofNat_of_lt' hword
      refine ⟨UInt64.ofNat word, ?_, hself⟩
      rw [Set.mem_ofPred_eq, hself]
      exact h
  rw [← Set.ncard_image_of_injective _ hinjective, himage, Set.ncard_coe_finset, Nat.card_Ico,
    Nat.add_sub_cancel_left]

end Uniform

end Fixture
