import Fixture.Proofs.Invocation.Answers
import Fixture.Proofs.Invocation.Slices
import Fixture.Proofs.Producer.Passes
import Fixture.Proofs.Recipe.Ranges

/-!
# Nothing aborts

A slice that does not exist, bounds with nothing between them and a position without an item
would abort what goes on. Reading an invocation takes no such slice, and what it lets through
has bounds in order and at least one item, so that nothing is left that can keep a value from
being made but a source none of whose words is accepted. Drawing alone would abort on bounds in
the wrong order and on what is no number; no text gives such bounds.
-/

namespace Fixture

namespace Uniform

/-- Bounds between which a double can be drawn. -/
structure Samplable (min max : Binary64) : Prop where
  min_isFinite : min.isFinite
  max_isFinite : max.isFinite
  min_lt : min.lt max
  width_isFinite : (Binary64.sub max min).isFinite

variable {σ : Type} [Source σ]

theorem int64_of_lt {min max : Int64} (h : max < min) (source : σ) :
    int64 min max source = .error .emptyRange := by
  rw [int64, if_pos h]
  rfl

theorem double_of_isNaN {min max : Binary64} (h : min.isNaN ∨ max.isNaN) (source : σ) :
    double min max source = .error .emptyRange := by
  have hle : max.le min = false := by
    rcases h with h | h <;> simp [Binary64.le, h]
  have hlt : min.lt max = false := by
    rcases h with h | h <;> simp [Binary64.lt, h]
  rw [double]
  simp only [hle, hlt]
  rfl

theorem double_of_wide {min max : Binary64} (hlt : min.lt max)
    (hwidth : (Binary64.sub max min).isFinite = false) (source : σ) :
    double min max source = .error .wideRange := by
  rw [double]
  simp only [Binary64.le_eq_false_of_lt hlt, hlt, hwidth]
  rfl

end Uniform

namespace Recipe

variable {σ : Type} [Source σ] {text : String}

/-- Between bounds that were read a double is drawn only if it can be. -/
theorem samplable_of_ofText {min max : Binary64} (h : ofText text = .ok (.double min max)) :
    Uniform.Samplable min max ∨
      ∀ source : σ, Uniform.double min max source = .ok (min, source) := by
  obtain ⟨hmin, hmax, hle, hwidth⟩ := sound_of_ofText h
  rw [Binary64.le_iff_value_le hmin hmax] at hle
  rcases Int.lt_or_eq_of_le hle with hlt | heq
  · exact .inl ⟨hmin, hmax, (Binary64.lt_iff_value_lt hmin hmax).2 hlt, hwidth⟩
  · exact .inr fun source => Uniform.double_of_value_eq hmin hmax heq source

theorem invoke_halt {call : Invocation} {source : σ} {halt : Halt}
    (h : invoke call source = .error halt) : halt = .endless ∧ ¬Steady σ := by
  have hendless : halt = .endless := by
    cases hread : ofInvocation call with
    | error error =>
      rw [Invocation.invoke_of_error hread] at h
      cases h
    | ok recipe =>
      rcases Invocation.invoke_of_ok hread source with hend | ⟨value, later, hmade⟩
      · rw [hend] at h
        exact (Except.error.inj h).symm
      · rw [hmade] at h
        cases h
  refine ⟨hendless, fun _ => ?_⟩
  rw [hendless] at h
  exact Invocation.invoke_ne_endless call source h

theorem invokeText_halt {source : σ} {halt : Halt} (h : invokeText text source = .error halt) :
    halt = .endless ∧ ¬Steady σ := by
  rw [invokeText] at h
  cases hread : Invocation.read text with
  | error error => simp [hread] at h
  | ok call =>
    rw [hread] at h
    exact invoke_halt h

end Recipe

section Aborts

variable {σ : Type} [Source σ]

/-- Whatever text an invocation is, every slice that is needed to read it exists, and invoking
it gives a value or an error, unless the source is one of which no word is ever accepted. Bounds
of whole numbers that come from a text are in order; between bounds of doubles is drawn only
if they are finite, in order and not too far apart, as are those of the coordinates; and the
position that is drawn from a list has an item. So no schema stops a document or a check. These
conditions are needed: without them drawing aborts. -/
theorem invocation_texts_never_abort :
    (∀ text, Invocation.readSliced text = some (Invocation.read text)) ∧
    (∀ cs start stop part, Text.slice? cs start stop = some part →
      start ≤ stop ∧ stop ≤ Text.byteCount cs) ∧
    (∀ (text : String) (source : σ) (halt : Halt),
      Recipe.invokeText text source = .error halt → halt = .endless ∧ ¬Steady σ) ∧
    (∀ text min max, Recipe.ofText text = .ok (.int min max) → min ≤ max) ∧
    (∀ text min max, Recipe.ofText text = .ok (.double min max) →
      Uniform.Samplable min max ∨
        ∀ source : σ, Uniform.double min max source = .ok (min, source)) ∧
    (Uniform.Samplable Recipe.southPole Uniform.northPole ∧
      Uniform.Samplable Recipe.westEnd Recipe.eastEnd) ∧
    (∀ text items, Recipe.ofText text = .ok (.item items) → items ≠ [] ∧
      ∀ (source : σ) (i : Nat) (later : σ),
        Uniform.below64 items.length source = .ok (i, later) → i < items.length) ∧
    (∀ (producer : Producer σ) (schema : Schema) (halt : Halt),
      producer.document schema = .error halt ∨ producer.check schema = .error halt →
        halt = .endless ∧ ¬Steady σ) ∧
    (∀ (min max : Int64) (source : σ), max < min →
      Uniform.int64 min max source = .error .emptyRange) ∧
    (∀ (min max : Binary64) (source : σ), min.isNaN ∨ max.isNaN →
      Uniform.double min max source = .error .emptyRange) ∧
    (∀ (min max : Binary64) (source : σ), min.lt max → (Binary64.sub max min).isFinite = false →
      Uniform.double min max source = .error .wideRange) := by
  refine ⟨Invocation.readSliced_eq, fun _ _ _ _ => Text.bounds_of_slice?,
    fun _ _ _ => Recipe.invokeText_halt, fun _ _ _ => Recipe.sound_of_ofText,
    fun _ _ _ => Recipe.samplable_of_ofText, ⟨?_, ?_⟩, ?_, ?_, ?_, ?_, ?_⟩
  · constructor <;> decide +kernel
  · constructor <;> decide +kernel
  · intro text items h
    have hne : items ≠ [] := Recipe.sound_of_ofText h
    refine ⟨hne, fun source i later hdraw => ?_⟩
    have hlength : items.length ≠ 0 := fun hzero => hne (List.eq_nil_of_length_eq_zero hzero)
    exact (Uniform.yields_below64 hlength).of_eq_ok hdraw
  · rintro producer schema halt (h | h)
    · exact Producer.document_halt h
    · exact Producer.check_halt h
  · exact fun _ _ source h => Uniform.int64_of_lt h source
  · exact fun _ _ source h => Uniform.double_of_isNaN h source
  · exact fun _ _ source hlt hwidth => Uniform.double_of_wide hlt hwidth source

/-- Letters of several bytes around the parentheses, a smallest distance between two bounds, a
list that is drawn from, a schema with a bad field, and bounds that abort. -/
theorem invocation_texts_never_abort_accented :
    let source := Script.ofWords [0xFFFFFFFFFFFFFFFF]
    let schema : Schema := ⟨[("n", "getDouble(-0,5e-324)"), ("bad", "getInt(5,3)")]⟩
    Invocation.readSliced " \u00E9\u2003(\u00FC,)" = some (.ok ⟨"\u00E9", ["\u00FC", ""]⟩) ∧
    Recipe.ofText "getDouble(-0,5e-324)" = .ok (.double ⟨0x8000000000000000⟩ ⟨1⟩) ∧
    Uniform.Samplable ⟨0x8000000000000000⟩ ⟨1⟩ ∧
    (∃ result later, Recipe.invokeText "getFromList(\u00E9)" source = .ok (result, later)) ∧
    (∃ result later, (Producer.ofSource source).document schema = .ok (result, later)) ∧
    Uniform.int64 5 3 source = .error .emptyRange ∧
    Uniform.double ⟨0x7FF8000000000000⟩ ⟨0⟩ source = .error .emptyRange := by
  intro source schema
  obtain ⟨hread, _, hinvoke, _, hdouble, _, _, hdocument, hint, hnumber, _⟩ :=
    invocation_texts_never_abort (σ := Script)
  have htext : Recipe.ofText "getDouble(-0,5e-324)" =
      .ok (.double ⟨0x8000000000000000⟩ ⟨1⟩) := by decide +kernel
  have hdrawn : (Uniform.double ⟨0x8000000000000000⟩ ⟨1⟩ source).toOption.map
      (fun made => made.2.words) = some [] := by decide +kernel
  refine ⟨?_, htext, ?_, ?_, ?_, hint 5 3 source (by decide), hnumber _ _ source (by decide)⟩
  · rw [hread]
    decide +kernel
  · refine (hdouble _ _ _ htext).resolve_right fun hnothing => ?_
    rw [hnothing source] at hdrawn
    exact absurd hdrawn (by decide)
  · cases hmade : Recipe.invokeText "getFromList(\u00E9)" source with
    | error halt => exact absurd (inferInstance : Steady Script) (hinvoke _ _ _ hmade).2
    | ok made => exact ⟨made.1, made.2, rfl⟩
  · cases hmade : (Producer.ofSource source).document schema with
    | error halt => exact absurd (inferInstance : Steady Script) (hdocument _ _ _ (.inl hmade)).2
    | ok made => exact ⟨made.1, made.2, rfl⟩

end Aborts

end Fixture
