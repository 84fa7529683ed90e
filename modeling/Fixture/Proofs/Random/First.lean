import Fixture.Proofs.Random.Yields
import Fixture.Random.Script

/-!
# The first word

A repeated draw ends at the first word that is accepted. If the word that comes first is
accepted, what it is accepted as is drawn, and nothing else is taken from the source. `Takes`
says so of a draw without looking into it, by what comes of every source that begins with the
word; a word that is refused is told by a script, from which more than one word is then drawn.
-/

namespace Fixture

namespace Draw

variable {σ α β ω : Type}

section First

variable {word : Draw σ ω} {accept : ω → Option α} {source later : σ} {w : ω} {a : α}

theorem firstAccepted_of_some (hword : word source = .ok (w, later)) (ha : accept w = some a)
    (limit : Nat) : firstAccepted word accept (limit + 1) source = .ok (a, later) := by
  rw [firstAccepted, bind_of_ok hword, ha]
  rfl

theorem firstAccepted_of_none (hword : word source = .ok (w, later)) (ha : accept w = none)
    (limit : Nat) :
    firstAccepted word accept (limit + 1) source = firstAccepted word accept limit later := by
  rw [firstAccepted, bind_of_ok hword, ha]

end First

/-- What is made of an accepted word without drawing may be made of it as it is accepted. -/
theorem firstAccepted_bind (word : Draw σ ω) {accept : ω → Option α} {next : α → Draw σ β}
    {f : α → β} (hnext : ∀ w a, accept w = some a → next a = pure (f a)) (limit : Nat) :
    firstAccepted word accept limit >>= next =
      firstAccepted word (fun w => (accept w).map f) limit := by
  induction limit with
  | zero => rfl
  | succ limit ih =>
    funext source
    rw [firstAccepted, firstAccepted, bind_assoc]
    rcases hword : word source with halt | ⟨w, later⟩
    · rw [bind_of_error hword, bind_of_error hword]
    · rw [bind_of_ok hword, bind_of_ok hword]
      cases haccept : accept w with
      | none => exact congrFun ih later
      | some a => exact congrFun (hnext w a haccept) later

/-- From whatever source the word comes first, it is accepted and `a` is drawn. -/
def Takes (draw : (σ : Type) → [Source σ] → Draw σ α) (word : UInt64) (a : α) : Prop :=
  ∀ (σ : Type) [Source σ] (source : σ), 0 < Source.horizon source →
    (Source.word64 source).1 = word → draw σ source = .ok (a, (Source.word64 source).2)

section Takes

variable {draw other : (σ : Type) → [Source σ] → Draw σ α} {word : UInt64} {a : α}

theorem takes_congr (h : ∀ (σ : Type) [Source σ] (source : σ), 0 < Source.horizon source →
    draw σ source = other σ source) : Takes draw word a ↔ Takes other word a := by
  constructor
  · intro htakes σ _ source hsource hfirst
    rw [← h σ source hsource]
    exact htakes σ source hsource hfirst
  · intro htakes σ _ source hsource hfirst
    rw [h σ source hsource]
    exact htakes σ source hsource hfirst

theorem takes_until64_iff (accept : UInt64 → Option α) :
    Takes (fun _ _ => until64 accept) word a ↔ accept word = some a := by
  constructor
  · intro htakes
    -- after a word that is refused a script has drawn more than once
    have hhorizon : Source.horizon (Script.ofWords [word]) = 0 + 1 + 1 := rfl
    have hdraw : word64 (Script.ofWords [word]) = .ok (word, ⟨[], [.word64]⟩) := rfl
    have hagain : word64 (⟨[], [.word64]⟩ : Script) = .ok (0, ⟨[], [.word64, .word64]⟩) := rfl
    have hscript : until64 accept (Script.ofWords [word]) = .ok (a, ⟨[], [.word64]⟩) :=
      htakes Script (Script.ofWords [word]) (Nat.succ_pos _) rfl
    rw [until64, hhorizon] at hscript
    cases hfirst : accept word with
    | some b =>
      rw [firstAccepted_of_some hdraw hfirst, Except.ok.injEq, Prod.mk.injEq] at hscript
      rw [hscript.1]
    | none =>
      rw [firstAccepted_of_none hdraw hfirst] at hscript
      cases hsecond : accept 0 with
      | some b =>
        rw [firstAccepted_of_some hagain hsecond, Except.ok.injEq, Prod.mk.injEq] at hscript
        cases hscript.2
      | none =>
        rw [firstAccepted_of_none hagain hsecond] at hscript
        cases hscript
  · intro hword σ _ source hsource hfirst
    obtain ⟨fewer, hfewer⟩ := Nat.exists_eq_succ_of_ne_zero (Nat.pos_iff_ne_zero.1 hsource)
    have hdraw : word64 source = .ok (word, (Source.word64 source).2) := by
      rw [word64, ← hfirst]
    change firstAccepted word64 accept (Source.horizon source) source = _
    rw [hfewer]
    exact firstAccepted_of_some hdraw hword fewer

end Takes

end Draw

end Fixture
