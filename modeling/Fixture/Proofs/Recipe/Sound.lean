import Fixture.Proofs.Binary64.Nearest
import Fixture.Proofs.Random.Yields
import Fixture.Proofs.Recipe.Basic

/-!
# Sound recipes

A recipe that was read is sound: its bounds are in order, as doubles they and their distance
are finite, and its list has an item. That is all that drawing needs, so that a sound recipe
always makes a value of its kind, as long as the source comes to a word that is accepted.
-/

namespace Fixture

namespace Recipe

/-- The bounds leave something between them, and a list has something in it. -/
def Sound : Recipe → Prop
  | .int min max => min ≤ max
  | .double min max =>
    min.isFinite ∧ max.isFinite ∧ min.le max ∧ (Binary64.sub max min).isFinite
  | .item items => items ≠ []
  | .email | .person | .latitude | .longitude => True

def Makes : Recipe → Value → Prop
  | .int min max, value => ∃ n, value = .int n ∧ min ≤ n ∧ n ≤ max
  | .double min max, value => ∃ x, value = .double x ∧ (x = min ∨ x.lt max)
  | .latitude, value | .longitude, value => ∃ x, value = .double x
  | .email, value | .person, value => ∃ s, value = .text s
  | .item items, value => ∃ s, value = .text s ∧ s ∈ items

theorem of_between_eq_ok {min max : Int64} {recipe : Recipe}
    (h : between min max = .ok recipe) : min ≤ max ∧ recipe = .int min max := by
  unfold between at h
  split at h
  · cases h
  · rename_i hnot
    cases h
    exact ⟨Int64.not_lt.1 hnot, rfl⟩

theorem isFinite_of_readDouble {generator : Generator} {argument : String} {x : Binary64}
    (h : readDouble generator argument = .ok x) : x.isFinite := by
  unfold readDouble at h
  split at h
  · split at h
    · cases h
      assumption
    · cases h
  · cases h

theorem of_betweenDoubles_eq_ok {min max : Binary64} {recipe : Recipe}
    (h : betweenDoubles min max = .ok recipe) :
    max.lt min = false ∧ (Binary64.sub max min).isFinite ∧ recipe = .double min max := by
  unfold betweenDoubles at h
  split at h
  · cases h
  · rename_i hnot
    split at h
    · rename_i hwidth
      cases h
      exact ⟨(Bool.not_eq_true _).mp hnot, hwidth, rfl⟩
    · cases h

/-- What is made of two bounds is made of what both were read as. -/
theorem exists_of_bind_read {β : Type} {read : String → Except ArgumentError β}
    {make : β → β → Except ArgumentError Recipe} {first last : String} {recipe : Recipe}
    (h : (do make (← read first) (← read last)) = .ok recipe) :
    ∃ min max, read first = .ok min ∧ read last = .ok max ∧ make min max = .ok recipe := by
  cases hfirst : read first with
  | error error => simp [hfirst, bind, Except.bind] at h
  | ok min =>
    cases hlast : read last with
    | error error => simp [hfirst, hlast, bind, Except.bind] at h
    | ok max =>
      simp only [hfirst, hlast, bind, Except.bind] at h
      exact ⟨min, max, rfl, rfl, h⟩

theorem eq_of_withoutArguments {generator : Generator} {recipe made : Recipe}
    {arguments : List String} (h : withoutArguments generator recipe arguments = .ok made) :
    made = recipe := by
  unfold withoutArguments at h
  split at h
  · cases h
    rfl
  · cases h

theorem sound_of_withoutArguments {generator : Generator} {recipe made : Recipe}
    (hrecipe : recipe.Sound) {arguments : List String}
    (h : withoutArguments generator recipe arguments = .ok made) : made.Sound := by
  rw [eq_of_withoutArguments h]
  exact hrecipe

theorem sound_of_ofArguments {generator : Generator} {arguments : List String}
    {recipe : Recipe} (h : ofArguments generator arguments = .ok recipe) : recipe.Sound := by
  cases generator with
  | int =>
    simp only [ofArguments] at h
    split at h
    · cases h
      show (0 : Int64) ≤ 1000
      decide
    · obtain ⟨min, max, _, _, hbetween⟩ := exists_of_bind_read h
      obtain ⟨hle, rfl⟩ := of_between_eq_ok hbetween
      exact hle
    · cases h
  | double =>
    simp only [ofArguments] at h
    split at h
    · obtain ⟨min, max, hfirst, hlast, hbetween⟩ := exists_of_bind_read h
      obtain ⟨hnot, hwidth, rfl⟩ := of_betweenDoubles_eq_ok hbetween
      have hmin := isFinite_of_readDouble hfirst
      have hmax := isFinite_of_readDouble hlast
      exact ⟨hmin, hmax, Binary64.le_of_lt_eq_false hmax hmin hnot, hwidth⟩
    · cases h
  | email =>
    have hsound : Recipe.email.Sound := trivial
    exact sound_of_withoutArguments hsound h
  | person =>
    have hsound : Recipe.person.Sound := trivial
    exact sound_of_withoutArguments hsound h
  | latitude =>
    have hsound : Recipe.latitude.Sound := trivial
    exact sound_of_withoutArguments hsound h
  | longitude =>
    have hsound : Recipe.longitude.Sound := trivial
    exact sound_of_withoutArguments hsound h
  | item =>
    simp only [ofArguments] at h
    split at h
    · cases h
    · rename_i hne
      cases h
      exact hne

theorem sound_of_ofInvocation {call : Invocation} {recipe : Recipe}
    (h : ofInvocation call = .ok recipe) : recipe.Sound := by
  unfold ofInvocation at h
  split at h
  · cases h
  · split at h
    · cases h
    · rename_i harguments
      cases h
      exact sound_of_ofArguments harguments

theorem sound_of_ofText {text : String} {recipe : Recipe}
    (h : ofText text = .ok recipe) : recipe.Sound := by
  unfold ofText at h
  split at h
  · cases h
  · exact sound_of_ofInvocation h

variable {σ : Type} [Source σ]

open Draw Fixture.Uniform

theorem size_firstNames_ne_zero : People.firstNames.size ≠ 0 := by
  have hne : People.firstNamesA ≠ [] := List.cons_ne_nil _ _
  simp [People.firstNames, hne]

theorem size_lastNames_ne_zero : People.lastNames.size ≠ 0 := by
  have hne : People.lastNamesToK ≠ [] := List.cons_ne_nil _ _
  simp [People.lastNames, hne]

/-- A sound recipe gives one of its values, unless no word is ever accepted. -/
theorem yields_draw {recipe : Recipe} (h : recipe.Sound) :
    Yields (recipe.draw : Draw σ Value) recipe.Makes := by
  cases recipe with
  | int min max =>
    exact (yields_int64 h).bind fun n hn => yields_pure ⟨n, rfl, hn⟩
  | double min max =>
    obtain ⟨_, _, hle, hwidth⟩ := h
    exact (yields_double hle hwidth).bind fun x hx => yields_pure ⟨x, rfl, hx⟩
  | email =>
    have hdomains : exampleDomains.size ≠ 0 := by decide
    exact (yields_item32 size_firstNames_ne_zero).bind fun first _ =>
      (yields_item32 hdomains).bind fun domain _ => yields_pure ⟨_, rfl⟩
  | person =>
    exact (yields_item32 size_firstNames_ne_zero).bind fun first _ =>
      (yields_item32 size_lastNames_ne_zero).bind fun last _ => yields_pure ⟨_, rfl⟩
  | latitude =>
    have hx : Yields (doubleWithin southPole latitudeWidth : Draw σ Binary64) fun _ => True :=
      yields_word64.bind fun _ _ => yields_pure trivial
    exact hx.bind fun x _ => yields_pure ⟨x, rfl⟩
  | longitude =>
    have hle : westEnd.le eastEnd := by decide +kernel
    have hwidth : (Binary64.sub eastEnd westEnd).isFinite := by decide +kernel
    exact (yields_double hle hwidth).bind fun x _ => yields_pure ⟨x, rfl⟩
  | item items =>
    have hsize : items.toArray.size ≠ 0 := by
      rw [List.size_toArray, ne_eq, List.length_eq_zero_iff]
      exact h
    exact (yields_item64 hsize).bind fun s hs => yields_pure ⟨s, rfl, by simpa using hs⟩

theorem invoke_eq_draw {call : Invocation} {recipe : Recipe}
    (h : ofInvocation call = .ok recipe) (source : σ) :
    invoke call source =
      (recipe.draw >>= fun value => pure (.ok value) : Draw σ (Except InvocationError Value))
        source := by
  rw [invoke_eq, h, drawIfOk]
  rcases hdraw : recipe.draw source with halt | ⟨value, later⟩
  · rw [bind_of_error hdraw]
  · rw [bind_of_ok hdraw]
    rfl

end Recipe

end Fixture
