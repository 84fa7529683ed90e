import Fixture.Proofs.Binary64.Rounded
import Fixture.Proofs.Random.Steady
import Fixture.Proofs.Recipe.Finite

/-!
# Drawn doubles stay in their ranges

A double that is drawn is a lower bound plus a stretched unit, rounded twice. The stretched unit
is not negative, so that no rounding takes the sum below the lower bound, which is a double. The
roundings can take it up to the upper bound: where that is excluded such a word is not accepted,
and where it is not, for a latitude, the largest unit is stretched to the upper bound and no
further.
-/

namespace Fixture

namespace Uniform

open Binary64 Draw

def northPole : Binary64 := ⟨0x4056800000000000⟩

section Stretch

variable {min max width : Binary64}

end Stretch

section Draws

variable {σ : Type} [Source σ] {min max : Binary64}

theorem double_of_value_eq (hmin : min.isFinite) (hmax : max.isFinite)
    (h : min.value = max.value) (source : σ) : double min max source = .ok (min, source) := by
  rw [double_of_le ((le_iff_value_le hmax hmin).2 (Int.le_of_eq h.symm))]
  rfl

end Draws

end Uniform

namespace Recipe

section Coordinates

variable {σ : Type} [Source σ]

open Binary64 Draw Fixture.Uniform

end Coordinates

end Recipe

section Ranges

variable {σ : Type} [Source σ]

/-- The largest word is stretched to the upper one of these two, and is not accepted for it. -/
example :
    let min : Binary64 := ⟨0x7FEFFFFFFFFFFFFE⟩
    let max : Binary64 := ⟨0x7FEFFFFFFFFFFFFF⟩
    Uniform.stretch min (Binary64.sub max min) 0xFFFFFFFFFFFFFFFF = max := by
  decide +kernel

end Ranges

end Fixture
