import Fixture.Proofs.Random.Horizon
import Mathlib.Data.List.TakeWhile

/-!
# The words of a source

A repeated draw looks at the words of a source in turn, and what it gives is told by their
places: the first place whose word is accepted decides the value, and as many words are taken as
there are places up to it. If there is no such place within the horizon the draw has no end. A
source that gives the words of a list and then zeros, as a script does, has one as soon as the
word zero is accepted.
-/

namespace Fixture

namespace Source

variable {σ : Type} [Source σ]

def after (source : σ) : Nat → σ
  | 0 => source
  | place + 1 => after (word64 source).2 place

/-- The word of 64 bits at a place, counted from zero. -/
def wordAt (source : σ) (place : Nat) : UInt64 :=
  (word64 (after source place)).1

theorem after_eq_nthState (source : σ) (place : Nat) :
    after source place = nthState word64 source place := by
  induction place generalizing source with
  | zero => rfl
  | succ place ih => exact ih (word64 source).2

theorem wordAt_eq_nthWord (source : σ) (place : Nat) :
    wordAt source place = nthWord word64 source place := by
  rw [wordAt, after_eq_nthState, nthWord]

/-- The source gives these words and then zeros, and a repeated draw looks as far as the first
of the zeros. -/
structure Gives (source : σ) (words : List UInt64) : Prop where
  wordAt_eq : ∀ place, wordAt source place = words.getD place 0
  length_lt : words.length < horizon source

end Source

namespace Draw

open Source

variable {σ α β : Type} [Source σ] {accept : UInt64 → Option α} {source : σ} {a : α}

/-- A repeated draw has no end exactly if all words that it looks at are refused. -/
theorem until64_eq_endless_iff :
    until64 accept source = .error .endless ↔
      ∀ i < horizon source, accept (wordAt source i) = none := by
  simp only [wordAt_eq_nthWord]
  rcases firstAccepted_cases accept (fun _ => rfl) (horizon source) source with
    ⟨place, hplace, a, _, haccept, hdraw⟩ | ⟨hnone, hdraw⟩
  · constructor
    · intro h
      cases hdraw.symm.trans h
    · intro hnone
      rw [hnone place hplace] at haccept
      cases haccept
  · exact ⟨fun _ => hnone, fun _ => hdraw⟩

theorem until64_bind {next : α → Draw σ β} {f : α → β}
    (hnext : ∀ word a, accept word = some a → next a = pure (f a)) (source : σ) :
    (until64 accept >>= next) source = until64 (fun word => (accept word).map f) source := by
  rw [until64, ← firstAccepted_bind word64 hnext]
  rfl

omit [Source σ] in
theorem bind_eq_of_eq {draw other : Draw σ α} (h : draw source = other source)
    (next : α → Draw σ β) : (draw >>= next) source = (other >>= next) source := by
  change (draw source >>= fun drawn => next drawn.1 drawn.2) = _
  rw [h]
  rfl

end Draw

namespace Script

open Source

end Script

end Fixture
