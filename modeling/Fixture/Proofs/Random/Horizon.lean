import Fixture.Proofs.Random.First
import Fixture.Random.ChaCha
import Mathlib.Data.List.GetD
import Mathlib.Data.Nat.Periodic
import Mathlib.Order.Nat
import Mathlib.Tactic.ByContra

/-!
# The horizon of a source

A repeated draw looks no further than the horizon of its source. Nothing is lost by that if each
word that the source ever gives is among the words before the horizon: then the draw is the loop
that draws until a word is accepted, and it has no end exactly where the loop has none. The stream
of a seed is such a source, since it starts again after its last block, and so is a script, which
gives nothing but zeros after its words.
-/

namespace Fixture

namespace Source

variable {σ ω : Type}

def nthState (step : σ → ω × σ) (source : σ) (place : Nat) : σ :=
  (fun source => (step source).2)^[place] source

def nthWord (step : σ → ω × σ) (source : σ) (place : Nat) : ω :=
  (step (nthState step source place)).1

theorem nthState_succ (step : σ → ω × σ) (source : σ) (place : Nat) :
    nthState step source (place + 1) = nthState step (step source).2 place := rfl

theorem exists_nthWord_eq_of_periodic {step : σ → ω × σ} {source : σ} {period : Nat}
    (hpos : 0 < period) (h : Function.Periodic (nthState step source) period) (place : Nat) :
    ∃ i < period, nthWord step source place = nthWord step source i := by
  refine ⟨place % period, Nat.mod_lt place hpos, ?_⟩
  rw [nthWord, nthWord, h.map_mod_nat]

end Source

open Source

/-- The words before the horizon are all words that the source ever gives, in either width. -/
class LawfulSource (σ : Type) [Source σ] : Prop where
  exists_word32_eq (source : σ) (place : Nat) :
    ∃ i < horizon source, nthWord word32 source place = nthWord word32 source i
  exists_word64_eq (source : σ) (place : Nat) :
    ∃ i < horizon source, nthWord word64 source place = nthWord word64 source i

namespace Draw

variable {σ α ω : Type} {step : σ → ω × σ} {word : Draw σ ω} {accept : ω → Option α}

/-- Among so many words one is the first that is accepted, or none is accepted. -/
theorem firstAccepted_cases (accept : ω → Option α)
    (hword : ∀ source, word source = .ok (step source)) (limit : Nat) (source : σ) :
    (∃ place < limit, ∃ a, (∀ i < place, accept (nthWord step source i) = none) ∧
      accept (nthWord step source place) = some a ∧
      firstAccepted word accept limit source = .ok (a, nthState step source (place + 1))) ∨
    (∀ i < limit, accept (nthWord step source i) = none) ∧
      firstAccepted word accept limit source = .error .endless := by
  -- the places of the source after one word are those of the source, moved by one
  induction limit generalizing source with
  | zero => exact .inr ⟨fun i hi => absurd hi (Nat.not_lt_zero i), rfl⟩
  | succ limit ih =>
    have hforall {bound : Nat} (hfirst : accept (step source).1 = none)
        (hrest : ∀ i < bound, accept (nthWord step (step source).2 i) = none) :
        ∀ i < bound + 1, accept (nthWord step source i) = none := by
      intro i hi
      cases i with
      | zero => exact hfirst
      | succ i => exact hrest i (Nat.lt_of_succ_lt_succ hi)
    cases hfirst : accept (step source).1 with
    | some a =>
      have hnone : ∀ i < 0, accept (nthWord step source i) = none :=
        fun i hi => absurd hi (Nat.not_lt_zero i)
      exact .inl ⟨0, Nat.succ_pos limit, a, hnone, hfirst,
        firstAccepted_of_some (hword source) hfirst limit⟩
    | none =>
      rw [firstAccepted_of_none (hword source) hfirst]
      rcases ih (step source).2 with ⟨place, hplace, a, hbefore, haccept, hdraw⟩ | ⟨hnone, hdraw⟩
      · exact .inl ⟨place + 1, Nat.succ_lt_succ hplace, a, hforall hfirst hbefore, haccept, hdraw⟩
      · exact .inr ⟨hforall hfirst hnone, hdraw⟩

/-- The draw is the loop that takes words until one is accepted. It has an end exactly if there
is a word that is accepted, and then it gives what the first such word is accepted as. -/
structure Loops (draw : Draw σ α) (step : σ → ω × σ) (accept : ω → Option α) : Prop where
  eq_ok_iff (source later : σ) (a : α) : draw source = .ok (a, later) ↔
    ∃ place, (∀ i < place, accept (nthWord step source i) = none) ∧
      accept (nthWord step source place) = some a ∧ later = nthState step source (place + 1)
  eq_error_iff (source : σ) (halt : Halt) : draw source = .error halt ↔
    halt = .endless ∧ ∀ place, accept (nthWord step source place) = none

theorem eq_of_first {found : Nat → Option α} {i j : Nat} {a b : α} (hi : ∀ k < i, found k = none)
    (ha : found i = some a) (hj : ∀ k < j, found k = none) (hb : found j = some b) : i = j := by
  rcases Nat.lt_trichotomy i j with hlt | heq | hlt
  · rw [hj i hlt] at ha
    cases ha
  · exact heq
  · rw [hi j hlt] at hb
    cases hb

theorem loops_of_cases {draw : Draw σ α}
    (h : ∀ source, (∃ place a, (∀ i < place, accept (nthWord step source i) = none) ∧
        accept (nthWord step source place) = some a ∧
        draw source = .ok (a, nthState step source (place + 1))) ∨
      (∀ place, accept (nthWord step source place) = none) ∧ draw source = .error .endless) :
    Loops draw step accept where
  eq_ok_iff source later a := by
    rcases h source with ⟨place, b, hbefore, haccept, hdraw⟩ | ⟨hnone, hdraw⟩
    · rw [hdraw]
      constructor
      · intro h
        cases h
        exact ⟨place, hbefore, haccept, rfl⟩
      · rintro ⟨other, hother, ha, rfl⟩
        obtain rfl := eq_of_first hbefore haccept hother ha
        cases haccept.symm.trans ha
        rfl
    · rw [hdraw]
      refine iff_of_false nofun ?_
      rintro ⟨place, _, ha, _⟩
      cases (hnone place).symm.trans ha
  eq_error_iff source halt := by
    rcases h source with ⟨place, a, _, haccept, hdraw⟩ | ⟨hnone, hdraw⟩
    · rw [hdraw]
      refine iff_of_false nofun ?_
      rintro ⟨_, hnone⟩
      cases (hnone place).symm.trans haccept
    · rw [hdraw]
      constructor
      · intro h
        cases h
        exact ⟨rfl, hnone⟩
      · rintro ⟨rfl, _⟩
        rfl

theorem loops_of_exists_eq {limit : σ → Nat} (hword : ∀ source, word source = .ok (step source))
    (hlimit : ∀ source place, ∃ i < limit source,
      nthWord step source place = nthWord step source i) :
    Loops (fun source => firstAccepted word accept (limit source) source) step accept := by
  refine loops_of_cases fun source => ?_
  rcases firstAccepted_cases accept hword (limit source) source with
    ⟨place, _, a, hbefore, haccept, hdraw⟩ | ⟨hnone, hdraw⟩
  · exact .inl ⟨place, a, hbefore, haccept, hdraw⟩
  · refine .inr ⟨fun place => ?_, hdraw⟩
    obtain ⟨i, hi, hsame⟩ := hlimit source place
    rw [hsame]
    exact hnone i hi

variable [Source σ] [LawfulSource σ]

theorem loops_until32 (accept : UInt32 → Option α) :
    Loops (until32 accept : Draw σ α) Source.word32 accept :=
  loops_of_exists_eq (fun _ => rfl) LawfulSource.exists_word32_eq

theorem loops_until64 (accept : UInt64 → Option α) :
    Loops (until64 accept : Draw σ α) Source.word64 accept :=
  loops_of_exists_eq (fun _ => rfl) LawfulSource.exists_word64_eq

end Draw

namespace ChaCha

theorem eq_of_place {stream other : ChaCha} (hkey : stream.key = other.key)
    (hcounter : stream.counter = other.counter) (hindex : stream.index = other.index) :
    stream = other := by
  obtain ⟨key, counter, index, _, rfl⟩ := stream
  obtain ⟨_, _, _, _, rfl⟩ := other
  cases hkey
  cases hcounter
  cases hindex
  rfl

/-- The stream of a key after so many words. -/
def atPlace (key : Key) (place : Nat) : ChaCha :=
  { atBlock key (UInt64.ofNat (place / 16)) with
    index := ⟨place % 16, Nat.mod_lt place (Nat.succ_pos 15)⟩ }

theorem eq_atPlace (stream : ChaCha) :
    stream = atPlace stream.key (16 * stream.counter.toNat + stream.index) := by
  have hindex := stream.index.isLt
  refine eq_of_place rfl ?_ ?_
  · have hblock : (16 * stream.counter.toNat + stream.index) / 16 = stream.counter.toNat := by
      omega
    show stream.counter = UInt64.ofNat _
    rw [hblock, UInt64.ofNat_toNat]
  · ext
    show _ = (16 * stream.counter.toNat + stream.index) % 16
    omega

theorem next_atPlace (key : Key) (place : Nat) :
    (atPlace key place).next.2 = atPlace key (place + 1) := by
  rw [next]
  by_cases hlast : place % 16 = 15
  · have hblock : (place + 1) / 16 = place / 16 + 1 := by omega
    rw [if_pos (Fin.ext hlast)]
    refine eq_of_place rfl ?_ ?_
    · show UInt64.ofNat (place / 16) + 1 = UInt64.ofNat ((place + 1) / 16)
      rw [hblock, UInt64.ofNat_add]
      rfl
    · ext
      show 0 = (place + 1) % 16
      omega
  · have hblock : (place + 1) / 16 = place / 16 := by omega
    rw [if_neg fun h => hlast (Fin.ext_iff.1 h)]
    refine eq_of_place rfl ?_ ?_
    · show UInt64.ofNat (place / 16) = UInt64.ofNat ((place + 1) / 16)
      rw [hblock]
    · ext
      show (place % 16 + 1) % 16 = (place + 1) % 16
      omega

theorem nextPair_atPlace (key : Key) (place : Nat) :
    (atPlace key place).nextPair.2 = atPlace key (place + 2) := by
  show (atPlace key place).next.2.next.2 = _
  rw [next_atPlace, next_atPlace]

theorem atPlace_add {blocks : Nat} (h : UInt64.ofNat blocks = 0) (key : Key) (place : Nat) :
    atPlace key (place + 16 * blocks) = atPlace key place := by
  refine eq_of_place rfl ?_ ?_
  · show UInt64.ofNat ((place + 16 * blocks) / 16) = UInt64.ofNat (place / 16)
    rw [Nat.add_mul_div_left place blocks (by decide), UInt64.ofNat_add, h, UInt64.add_zero]
  · ext
    exact Nat.add_mul_mod_self_left place 16 blocks

/-- After its last block the stream starts again. -/
theorem periodic_atPlace (key : Key) : Function.Periodic (atPlace key) (16 * UInt64.size) :=
  atPlace_add (by decide) key

theorem nthState_atPlace {ω : Type} {step : ChaCha → ω × ChaCha} {width : Nat} {key : Key}
    (h : ∀ place, (step (atPlace key place)).2 = atPlace key (place + width)) (place count : Nat) :
    nthState step (atPlace key place) count = atPlace key (place + width * count) := by
  induction count generalizing place with
  | zero => rfl
  | succ count ih =>
    rw [nthState_succ, h, ih, Nat.mul_succ, Nat.add_assoc, Nat.add_comm width]

/-- As many words as the horizon says lead back to where the stream is. -/
theorem nthState_next_horizon (stream : ChaCha) :
    nthState next stream (horizon stream) = stream := by
  rw [eq_atPlace stream, nthState_atPlace (next_atPlace _), Nat.one_mul]
  exact periodic_atPlace _ _

theorem exists_nthWord_eq {ω : Type} {step : ChaCha → ω × ChaCha} {width : Nat}
    (h : ∀ key place, (step (atPlace key place)).2 = atPlace key (place + width))
    (stream : ChaCha) (place : Nat) :
    ∃ i < 16 * UInt64.size, nthWord step stream place = nthWord step stream i := by
  rw [eq_atPlace stream]
  refine exists_nthWord_eq_of_periodic (by decide) ?_ place
  intro count
  rw [nthState_atPlace (h _), nthState_atPlace (h _), Nat.mul_add, ← Nat.add_assoc]
  exact (periodic_atPlace _).nsmul width _

instance : LawfulSource ChaCha where
  exists_word32_eq := exists_nthWord_eq next_atPlace
  exists_word64_eq := exists_nthWord_eq nextPair_atPlace

end ChaCha

namespace Script

theorem nthState_draw (width : Width) (script : Script) (place : Nat) :
    nthState (fun script => draw script width) script place =
      ⟨script.words.drop place, List.replicate place width ++ script.drawn⟩ := by
  induction place generalizing script with
  | zero => rfl
  | succ place ih =>
    rw [nthState_succ, ih, List.replicate_succ', List.append_assoc]
    show (⟨script.words.tail.drop place, _⟩ : Script) = _
    rw [List.drop_tail]
    rfl

theorem nthWord_draw (width : Width) (script : Script) (place : Nat) :
    nthWord (fun script => draw script width) script place = script.words.getD place 0 := by
  rw [nthWord, nthState_draw]
  show (script.words.drop place).headD 0 = _
  rw [List.headD_eq_head?_getD, List.head?_drop, List.getD_eq_getElem?_getD]

theorem nthWord_word32 (script : Script) (place : Nat) :
    nthWord word32 script place = (script.words.getD place 0).toUInt32 := by
  rw [← nthWord_draw .word32]
  rfl

theorem nthWord_word64 (script : Script) (place : Nat) :
    nthWord word64 script place = script.words.getD place 0 :=
  nthWord_draw .word64 script place

theorem exists_getD_eq (words : List UInt64) (place : Nat) :
    ∃ i < words.length + 1, words.getD place 0 = words.getD i 0 := by
  rcases Nat.lt_or_ge place words.length with hplace | hplace
  · exact ⟨place, Nat.lt_succ_of_lt hplace, rfl⟩
  · refine ⟨words.length, Nat.lt_succ_self _, ?_⟩
    rw [List.getD_eq_default _ _ hplace, List.getD_eq_default _ _ (Nat.le_refl _)]

instance : LawfulSource Script where
  exists_word32_eq script place := by
    obtain ⟨i, hi, hsame⟩ := exists_getD_eq script.words place
    exact ⟨i, hi, by rw [nthWord_word32, nthWord_word32, hsame]⟩
  exists_word64_eq script place := by
    obtain ⟨i, hi, hsame⟩ := exists_getD_eq script.words place
    exact ⟨i, hi, by rw [nthWord_word64, nthWord_word64, hsame]⟩

end Script

end Fixture
