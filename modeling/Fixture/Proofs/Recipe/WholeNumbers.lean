import Fixture.Proofs.Random.Fair
import Fixture.Proofs.Random.Steady
import Fixture.Proofs.Random.Words

/-!
# Whole numbers are drawn fairly

A whole number between two bounds is a position counted from the lower bound. It is computed in
signed words, whose arithmetic wraps: the number of values is taken modulo 2⁶⁴, where zero
stands for all words, and the position is added to the lower bound. No value outside the bounds
comes out of that, and the words that come first and are accepted are as many for every value.
-/

namespace Fixture

namespace Uniform

open Draw

variable {min max n : Int64}

def countBetween (min max : Int64) : Nat :=
  (max.toInt - min.toInt + 1).toNat

/-- The number between two bounds that a word is taken for, if it is accepted. The low half of
the product of the word and the number of values is compared with the zone, and the high half
is added to the lower bound. All of it is arithmetic on words, which wraps; a number of values
that has come out as zero stands for all words. -/
def wrapped? (min max : Int64) (word : UInt64) : Option Int64 :=
  let count := (max - min + 1).toUInt64
  if count = 0 then some word.toInt64
  else
    let product := word.toNat * count.toNat
    let zone := count <<< (63 - count.log2) - 1
    if UInt64.ofNat product ≤ zone then
      some (min + (UInt64.ofNat (product / 2 ^ 64)).toInt64)
    else none

theorem countBetween_pos (h : min ≤ max) : countBetween min max ≠ 0 := by
  rw [Int64.le_iff_toInt_le] at h
  rw [countBetween]
  omega

theorem countBetween_le (min max : Int64) : countBetween min max ≤ 2 ^ 64 := by
  have hlow := min.le_toInt
  have hhigh := max.toInt_lt
  rw [countBetween]
  omega

theorem toNat_toUInt64 (x : Int64) : (x.toUInt64.toNat : Int) = x.toInt % 2 ^ 64 := by
  have hlt : x.toUInt64.toNat < 2 ^ 64 := x.toUInt64.toNat_lt
  have hint : x.toInt = (x.toUInt64.toNat : Int).bmod (2 ^ 64) :=
    x.toBitVec.toInt_eq_toNat_bmod
  have hwrap : (x.toUInt64.toNat : Int).bmod (2 ^ 64) % 2 ^ 64 = x.toUInt64.toNat % 2 ^ 64 :=
    Int.bmod_emod
  rw [hint, hwrap]
  omega

/-- The number of values wraps only where all words are values. -/
theorem toNat_count (h : min ≤ max) :
    (max - min + 1).toUInt64.toNat = countBetween min max % 2 ^ 64 := by
  have hword := toNat_toUInt64 (max - min + 1)
  have hone : (1 : Int64).toInt = 1 := rfl
  have hsum : ((max.toInt - min.toInt).bmod (2 ^ 64) + 1).bmod (2 ^ 64) % 2 ^ 64 =
      ((max.toInt - min.toInt).bmod (2 ^ 64) + 1) % 2 ^ 64 := Int.bmod_emod
  have hdifference : (max.toInt - min.toInt).bmod (2 ^ 64) % 2 ^ 64 =
      (max.toInt - min.toInt) % 2 ^ 64 := Int.bmod_emod
  rw [Int64.toInt_add, Int64.toInt_sub, hone, hsum] at hword
  rw [Int64.le_iff_toInt_le] at h
  rw [countBetween]
  omega

theorem toNat_zone {count : UInt64} (h : count ≠ 0) :
    (count <<< (63 - count.log2) - 1).toNat = count.toNat * share 64 count.toNat - 1 := by
  have hn : count.toNat ≠ 0 := fun hzero => h (UInt64.toNat_inj.1 hzero)
  have hlt := mul_share_lt hn count.toNat_lt
  have hpos : 0 < count.toNat * share 64 count.toNat :=
    Nat.mul_pos (Nat.pos_of_ne_zero hn) (share_pos 64 count.toNat)
  have hlog : count.log2.toNat = count.toNat.log2 := rfl
  have hbits : count.toNat.log2 < 64 := (Nat.log2_lt hn).2 count.toNat_lt
  have hlast : (63 : UInt64).toNat = 63 := rfl
  have hle : count.log2 ≤ 63 := by
    rw [UInt64.le_iff_toNat_le, hlog, hlast]
    omega
  have hshift : (63 - count.log2).toNat % 64 = 63 - count.toNat.log2 := by
    rw [UInt64.toNat_sub_of_le _ _ hle, hlog, hlast]
    omega
  have hone : (1 : UInt64).toNat = 1 := rfl
  rw [UInt64.toNat_sub, UInt64.toNat_shiftLeft, hshift, Nat.shiftLeft_eq, hone]
  change (_ + count.toNat * share 64 count.toNat % 2 ^ 64) % 2 ^ 64 = _
  omega

/-- Where the arithmetic of words wraps nothing is lost. -/
theorem wrapped?_eq (h : min ≤ max) (word : UInt64) :
    wrapped? min max word =
      if countBetween min max = 2 ^ 64 then some word.toInt64
      else (position? 64 (countBetween min max) word.toNat).map
        fun position : Nat => Int64.ofInt (min.toInt + position) := by
  have hcount := toNat_count h
  have hne := countBetween_pos h
  have hle := countBetween_le min max
  rw [wrapped?]
  dsimp only
  generalize (max - min + 1).toUInt64 = count at hcount ⊢
  -- the number of values does not fit in a word in one case alone, and then comes out as zero
  by_cases hfull : countBetween min max = 2 ^ 64
  · have hzero : count = 0 := by
      rw [← UInt64.toNat_inj, hcount, hfull]
      rfl
    rw [if_pos hzero, if_pos hfull]
  · rw [Nat.mod_eq_of_lt (by omega)] at hcount
    have hzero : count ≠ 0 := by
      rintro rfl
      exact hne hcount.symm
    have hzone : UInt64.ofNat (word.toNat * count.toNat) ≤ count <<< (63 - count.log2) - 1 ↔
        word.toNat * count.toNat % 2 ^ 64 < count.toNat * share 64 count.toNat := by
      have hpos : 0 < count.toNat * share 64 count.toNat :=
        Nat.mul_pos (by omega) (share_pos 64 count.toNat)
      rw [UInt64.le_iff_toNat_le, toNat_zone hzero, UInt64.toNat_ofNat']
      omega
    rw [if_neg hzero, if_neg hfull, position?_eq, ← hcount, if_congr hzone rfl rfl]
    split
    · rw [Option.map_some, Int64.ofInt_add, Int64.ofInt_toInt]
      rfl
    · rfl

section Source

variable {σ : Type} [Source σ] {source : σ}

theorem int64_eq_until64_of_ne (h : min ≤ max) (hne : countBetween min max ≠ 2 ^ 64)
    (source : σ) : int64 min max source = until64 (wrapped? min max) source := by
  have hsize : UInt64.size = 2 ^ 64 := rfl
  have haccept : wrapped? min max = fun word =>
      (position? 64 (countBetween min max) word.toNat).map
        fun position : Nat => Int64.ofInt (min.toInt + position) := by
    funext word
    rw [wrapped?_eq h, if_neg hne]
  rw [int64, if_neg (Int64.not_lt.2 h), ← countBetween, hsize, if_neg hne, below64,
    if_neg (countBetween_pos h), until64_bind fun _ _ _ => rfl, haccept]

end Source

end Uniform

namespace Recipe

end Recipe

section Fair

variable {σ : Type} [Source σ]

end Fair

end Fixture
