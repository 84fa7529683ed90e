import Fixture.Proofs.Binary64.Monotone
import Fixture.Proofs.Recipe.Sound

/-!
# Drawn doubles are finite

A unit is at most one, so that stretching it to a width gives at most the width, and the bound
that is then added only brings it nearer to zero or is no more than what the upper bound lets
through. So every double that a recipe gives is finite, for whatever bounds it was read from and
whatever word is drawn.
-/

namespace Fixture

namespace Draw

variable {σ α : Type} {draw : Draw σ α} {good better : α → Prop}

theorem Yields.mono (h : Yields draw good) (hsub : ∀ a, good a → better a) :
    Yields draw better := by
  intro source
  rcases h source with hendless | ⟨a, later, ha, hdraw⟩
  · exact Or.inl hendless
  · exact Or.inr ⟨a, later, hsub a ha, hdraw⟩

theorem Yields.of_eq_ok (h : Yields draw good) {source later : σ} {a : α}
    (hdraw : draw source = .ok (a, later)) : good a := by
  rcases h source with hendless | ⟨b, last, hb, hmade⟩
  · rw [hendless] at hdraw
    cases hdraw
  · rw [hmade] at hdraw
    cases hdraw
    exact hb

end Draw

namespace Uniform

open Binary64

/-- The ordinal of the largest unit, which is 2⁻⁵² below one. -/
def lastUnit : Nat := 1023 * binade - 2

theorem lastUnit_lt : lastUnit < infinityOrdinal := by decide

theorem units_lastUnit_le : units lastUnit ≤ unitsInOne := by decide +kernel

theorem unit_eq (word : UInt64) : ∃ k ≤ lastUnit, unit word = ofOrdinal false k := by
  have hword : (word >>> 12).toNat ≤ binade - 1 := by
    rw [UInt64.toNat_shiftRight, Nat.shiftRight_eq_div_pow]
    have hlt := word.toNat_lt
    have htwelve : (12 : UInt64).toNat % 64 = 12 := by decide
    rw [htwelve]
    have hsize : binade = 2 ^ 52 := rfl
    omega
  refine ⟨nearest ((word >>> 12).toNat * unitsInOne) binade, ?_, rfl⟩
  calc nearest ((word >>> 12).toNat * unitsInOne) binade
      ≤ nearest ((binade - 1) * unitsInOne) binade :=
        nearest_mono (Nat.mul_le_mul_right _ hword)
    _ = lastUnit := by decide +kernel

/-- A unit that is stretched to a width is no more than the width. -/
theorem mul_unit_eq {width : Binary64} (hwidth : width.isFinite) (hsign : width.negative = false)
    (word : UInt64) : ∃ k ≤ width.ordinal, mul (unit word) width = ofOrdinal false k := by
  obtain ⟨k, hk, hunit⟩ := unit_eq word
  rw [hunit]
  exact mul_ofOrdinal_eq (Nat.lt_of_le_of_lt hk lastUnit_lt)
    (Nat.le_trans (units_mono (Nat.le_of_lt lastUnit_lt) hk) units_lastUnit_le) hwidth hsign

section Stretch

variable {min max width : Binary64}

theorem isFinite_stretch_of_lt (hmin : min.isFinite) (hwidth : width.isFinite)
    (hsign : width.negative = false) (hmax : max.isFinite) {word : UInt64}
    (h : (stretch min width word).lt max) : (stretch min width word).isFinite := by
  obtain ⟨k, hk, hproduct⟩ := mul_unit_eq hwidth hsign word
  have hlt : k < infinityOrdinal := Nat.lt_of_le_of_lt hk (isFinite_iff.1 hwidth)
  have hvalue := value_ofOrdinal_false (Nat.le_of_lt hlt)
  rw [stretch, hproduct] at h ⊢
  exact isFinite_add_of_lt (isFinite_ofOrdinal false hlt) hmin (by omega) hmax h

/-- What is drawn from a bound below zero on is finite, whatever the word. -/
theorem isFinite_stretch_of_nonpos (hmin : min.isFinite) (hwidth : width.isFinite)
    (hsign : width.negative = false) (hneg : min.value ≤ 0) (word : UInt64) :
    (stretch min width word).isFinite := by
  obtain ⟨k, hk, hproduct⟩ := mul_unit_eq hwidth hsign word
  have hlt : k < infinityOrdinal := Nat.lt_of_le_of_lt hk (isFinite_iff.1 hwidth)
  have hvalue := value_ofOrdinal_false (Nat.le_of_lt hlt)
  rw [stretch, hproduct]
  exact isFinite_add_of_opposite (isFinite_ofOrdinal false hlt) hmin (by omega) hneg

end Stretch

section Draws

open Draw

variable {σ : Type} [Source σ]

theorem yields_double_isFinite {min max : Binary64} (hmin : min.isFinite)
    (hmax : max.isFinite) (hwidth : (Binary64.sub max min).isFinite) :
    Yields (double min max : Draw σ Binary64) fun x => x.isFinite := by
  cases hback : max.le min with
  | true =>
    rw [double_of_le hback]
    exact yields_pure hmin
  | false =>
    have hlt : min.lt max := by
      rw [lt_eq_not_le hmin hmax, hback]
      rfl
    exact yields_double_of_lt hlt hwidth fun word hword =>
      isFinite_stretch_of_lt hmin hwidth (negative_sub_of_lt hmin hmax hlt) hmax hword

end Draws

end Uniform

/-- The value is no double, or one that has an exact value. -/
def Value.IsFinite (value : Value) : Prop :=
  ∀ x, value = .double x → x.isFinite

namespace Recipe

open Draw Fixture.Uniform

variable {σ : Type} [Source σ]

theorem yields_draw_isFinite {recipe : Recipe} (h : recipe.Sound) :
    Yields (recipe.draw : Draw σ Value) Value.IsFinite := by
  have hdouble {draw : Draw σ Binary64} (hdraw : Yields draw fun x => x.isFinite) :
      Yields (draw >>= fun x => pure (Value.double x)) Value.IsFinite := by
    refine hdraw.bind fun x hx => yields_pure ?_
    rintro y ⟨⟩
    exact hx
  cases recipe with
  | double min max =>
    obtain ⟨hmin, hmax, _, hwidth⟩ := h
    exact hdouble (yields_double_isFinite hmin hmax hwidth)
  | latitude =>
    have hpole : southPole.isFinite := by decide
    have hwidth : latitudeWidth.isFinite := by decide
    have hneg : southPole.value ≤ 0 := by decide +kernel
    exact hdouble (yields_word64.bind fun word _ =>
      yields_pure (isFinite_stretch_of_nonpos hpole hwidth rfl hneg word))
  | longitude =>
    have hwest : westEnd.isFinite := by decide
    have heast : eastEnd.isFinite := by decide
    have hwidth : (Binary64.sub eastEnd westEnd).isFinite := by decide +kernel
    exact hdouble (yields_double_isFinite hwest heast hwidth)
  | int min max =>
    refine (yields_draw h).mono ?_
    rintro _ ⟨n, rfl, _⟩ x ⟨⟩
  | email =>
    refine (yields_draw h).mono ?_
    rintro _ ⟨s, rfl⟩ x ⟨⟩
  | person =>
    refine (yields_draw h).mono ?_
    rintro _ ⟨s, rfl⟩ x ⟨⟩
  | item items =>
    refine (yields_draw h).mono ?_
    rintro _ ⟨s, rfl, _⟩ x ⟨⟩

end Recipe

end Fixture
