import Fixture.Proofs.Binary64.Nearest
import Fixture.Proofs.Random.Horizon
import Fixture.Proofs.Recipe.Sound

/-!
# Steady sources

A source is steady when none of the repeated draws goes on for ever: wherever one begins, the
source comes to a word that is accepted. That is not proved of the stream of a seed, but it is
what is expected of random words. From a steady source every sound recipe makes a value.

A script is steady, since it ends in zeros and the word zero is always accepted: it chooses
position zero, and of two bounds the lower one.
-/

namespace Fixture

namespace Draw

open Source

variable {σ α β : Type} {source : σ}

def Ends (draw : Draw σ α) : Prop :=
  ∀ source, draw source ≠ .error .endless

theorem ends_pure (a : α) : Ends (pure a : Draw σ α) := by
  intro source h
  cases h

theorem ends_throw {halt : Halt} (h : halt ≠ .endless) : Ends (throw halt : Draw σ α) := by
  intro source he
  change Except.error halt = Except.error Halt.endless at he
  exact h (Except.error.inj he)

theorem Ends.bind {draw : Draw σ α} {next : α → Draw σ β} (hdraw : Ends draw)
    (hnext : ∀ a, Ends (next a)) : Ends (draw >>= next) := by
  intro source
  cases h : draw source with
  | error halt =>
    rw [bind_of_error h next]
    intro he
    cases Except.error.inj he
    exact hdraw source h
  | ok drawn =>
    obtain ⟨a, later⟩ := drawn
    rw [bind_of_ok h next]
    exact hnext a later

theorem Loops.ends_iff {ω : Type} {draw : Draw σ α} {step : σ → ω × σ} {accept : ω → Option α}
    (h : Loops draw step accept) :
    Ends draw ↔ ∀ source, ∃ place, (accept (nthWord step source place)).isSome := by
  refine forall_congr' fun source => ?_
  simp only [ne_eq, h.eq_error_iff, true_and, not_forall, Option.isSome_iff_ne_none]

theorem ends_word64 [Source σ] : Ends (word64 : Draw σ UInt64) := by
  intro source h
  cases h

end Draw

open Draw

/-- In no state of the source does a repeated draw go on for ever. -/
class Steady (σ : Type) [Source σ] : Prop where
  below32 (n : Nat) : Ends (Uniform.below32 n : Draw σ Nat)
  below64 (n : Nat) : Ends (Uniform.below64 n : Draw σ Nat)
  double (min max : Binary64) : Ends (Uniform.double min max : Draw σ Binary64)

namespace Uniform

variable {σ α : Type} [Source σ] [Steady σ]

omit [Source σ] [Steady σ] in
theorem ends_itemAt (items : Array α) (position : Nat) :
    Ends (itemAt items position : Draw σ α) := by
  unfold itemAt
  split
  · exact ends_pure _
  · exact ends_throw (by decide)

theorem ends_item32 (items : Array α) : Ends (item32 items : Draw σ α) :=
  (Steady.below32 items.size).bind fun position => ends_itemAt items position

theorem ends_item64 (items : Array α) : Ends (item64 items : Draw σ α) :=
  (Steady.below64 items.size).bind fun position => ends_itemAt items position

theorem ends_int64 (min max : Int64) : Ends (int64 min max : Draw σ Int64) := by
  unfold int64
  dsimp only
  split
  · exact ends_throw (by decide)
  · split
    · exact ends_word64.bind fun word => ends_pure _
    · exact (Steady.below64 _).bind fun position => ends_pure _

end Uniform

namespace Recipe

open Fixture.Uniform

variable {σ : Type} [Source σ] [Steady σ]

theorem ends_draw (recipe : Recipe) : Ends (recipe.draw : Draw σ Value) := by
  cases recipe with
  | int min max => exact (ends_int64 min max).bind fun n => ends_pure _
  | double min max => exact (Steady.double min max).bind fun x => ends_pure _
  | email =>
    exact (ends_item32 _).bind fun first => (ends_item32 _).bind fun domain => ends_pure _
  | person =>
    exact (ends_item32 _).bind fun first => (ends_item32 _).bind fun last => ends_pure _
  | latitude =>
    have hx : Ends (doubleWithin southPole latitudeWidth : Draw σ Binary64) :=
      ends_word64.bind fun word => ends_pure _
    exact hx.bind fun x => ends_pure _
  | longitude => exact (Steady.double westEnd eastEnd).bind fun x => ends_pure _
  | item items => exact (ends_item64 items.toArray).bind fun s => ends_pure _

end Recipe

namespace Script

theorem ends_until32 {α : Type} {accept : UInt32 → Option α} (hzero : (accept 0).isSome) :
    Ends (until32 accept : Draw Script α) := by
  refine (loops_until32 accept).ends_iff.2 fun script => ⟨script.words.length, ?_⟩
  rw [nthWord_word32, List.getD_eq_default _ _ (Nat.le_refl _)]
  exact hzero

theorem ends_until64 {α : Type} {accept : UInt64 → Option α} (hzero : (accept 0).isSome) :
    Ends (until64 accept : Draw Script α) := by
  refine (loops_until64 accept).ends_iff.2 fun script => ⟨script.words.length, ?_⟩
  rw [nthWord_word64, List.getD_eq_default _ _ (Nat.le_refl _)]
  exact hzero

theorem position?_zero (bits : Nat) {n : Nat} (h : n ≠ 0) :
    Uniform.position? bits n 0 = some 0 := by
  have hzone : 0 < n <<< (bits - 1 - n.log2) := by
    rw [Nat.shiftLeft_eq]
    exact Nat.mul_pos (Nat.pos_of_ne_zero h) (Nat.two_pow_pos _)
  simp [Uniform.position?, hzone]

/-- The word zero gives the lower bound, which lies below the upper one. -/
theorem stretch_zero_lt {min max : Binary64} (hlt : min.lt max)
    (hwidth : (Binary64.sub max min).isFinite) :
    (Uniform.stretch min (Binary64.sub max min) 0).lt max := by
  have hunit : Uniform.unit 0 = Binary64.ofOrdinal false 0 := by decide +kernel
  have hmin : min.isFinite := by
    rw [← Binary64.isFinite_neg]
    exact (Binary64.isFinite_of_add hwidth).2
  obtain ⟨sign, hproduct⟩ := Binary64.zero_mul_eq false hwidth
  rw [Uniform.stretch, hunit, hproduct]
  simp only [Binary64.lt, Binary64.isNaN_of_isFinite (Binary64.isFinite_zero_add sign hmin),
    Binary64.rank_zero_add sign hmin, Bool.and_eq_true] at hlt ⊢
  exact ⟨⟨rfl, hlt.1.2⟩, hlt.2⟩

instance : Steady Script where
  below32 n := by
    unfold Uniform.below32
    split
    · exact ends_throw (by decide)
    · rename_i hn
      exact ends_until32 (by simp [position?_zero 32 hn])
  below64 n := by
    unfold Uniform.below64
    split
    · exact ends_throw (by decide)
    · rename_i hn
      exact ends_until64 (by simp [position?_zero 64 hn])
  double min max := by
    unfold Uniform.double
    dsimp only
    split
    · exact ends_pure _
    · split
      · exact ends_throw (by decide)
      · rename_i hlt
        split
        · exact ends_throw (by decide)
        · rename_i hwidth
          simp only [Bool.not_eq_true, Bool.not_eq_false'] at hlt hwidth
          exact ends_until64 (by simp [stretch_zero_lt hlt hwidth])

end Script

end Fixture
