import Fixture.Proofs.Binary64.Nearest
import Fixture.Random.Uniform

/-!
# What draws give

A draw can halt in several ways, but a draw whose bounds were looked at before has only one
of them left: that no word is ever accepted. `Yields draw good` says that of a draw, and that
whatever it gives is good. It is kept when draws are put together, so that a draw can be
taken apart in the way it was made, and no proof about what is made of draws has to look at
the source.
-/

namespace Fixture

namespace Draw

variable {σ α β ω : Type} {source later : σ}

/-- From every source the draw gives something good, or it never ends. -/
def Yields (draw : Draw σ α) (good : α → Prop) : Prop :=
  ∀ source, draw source = .error .endless ∨
    ∃ a later, good a ∧ draw source = .ok (a, later)

theorem bind_of_ok {draw : Draw σ α} {a : α} (h : draw source = .ok (a, later))
    (next : α → Draw σ β) : (draw >>= next) source = next a later := by
  change (draw source >>= fun drawn => next drawn.1 drawn.2) = next a later
  rw [h]
  rfl

theorem bind_of_error {draw : Draw σ α} {halt : Halt} (h : draw source = .error halt)
    (next : α → Draw σ β) : (draw >>= next) source = .error halt := by
  change (draw source >>= fun drawn => next drawn.1 drawn.2) = .error halt
  rw [h]
  rfl

theorem yields_pure {a : α} {good : α → Prop} (h : good a) :
    Yields (pure a : Draw σ α) good := by
  intro source
  exact Or.inr ⟨a, source, h, rfl⟩

theorem Yields.bind {draw : Draw σ α} {next : α → Draw σ β} {good : α → Prop}
    {better : β → Prop} (hdraw : Yields draw good)
    (hnext : ∀ a, good a → Yields (next a) better) : Yields (draw >>= next) better := by
  intro source
  rcases hdraw source with h | ⟨a, later, ha, h⟩
  · exact Or.inl (bind_of_error h next)
  · rw [bind_of_ok h next]
    exact hnext a ha later

theorem yields_word64 [Source σ] : Yields (word64 : Draw σ UInt64) fun _ => True := by
  intro source
  exact Or.inr ⟨_, _, trivial, rfl⟩

theorem yields_firstAccepted {word : Draw σ ω}
    (hword : ∀ source, ∃ w later, word source = .ok (w, later)) (accept : ω → Option α)
    (limit : Nat) :
    Yields (firstAccepted word accept limit) fun a => ∃ w, accept w = some a := by
  induction limit with
  | zero =>
    intro source
    exact Or.inl rfl
  | succ limit ih =>
    intro source
    obtain ⟨w, later, hw⟩ := hword source
    rw [firstAccepted, bind_of_ok hw]
    cases ha : accept w with
    | none => exact ih later
    | some a => exact Or.inr ⟨a, later, ⟨w, ha⟩, rfl⟩

variable [Source σ]

theorem yields_until32 (accept : UInt32 → Option α) :
    Yields (until32 accept : Draw σ α) fun a => ∃ w, accept w = some a := by
  intro source
  exact yields_firstAccepted (fun _ => ⟨_, _, rfl⟩) accept _ source

theorem yields_until64 (accept : UInt64 → Option α) :
    Yields (until64 accept : Draw σ α) fun a => ∃ w, accept w = some a := by
  intro source
  exact yields_firstAccepted (fun _ => ⟨_, _, rfl⟩) accept _ source

end Draw

namespace Uniform

open Draw

variable {σ α : Type}

theorem yields_itemAt {items : Array α} {position : Nat} (h : position < items.size) :
    Yields (itemAt items position : Draw σ α) (· ∈ items) := by
  rw [itemAt, Array.getElem?_eq_getElem h]
  exact yields_pure (Array.getElem_mem h)

theorem position?_lt {bits n word position : Nat} (hword : word < 2 ^ bits)
    (h : position? bits n word = some position) : position < n := by
  unfold position? at h
  simp only [Nat.one_shiftLeft, Option.ite_none_right_eq_some, Option.some.injEq] at h
  obtain ⟨hzone, rfl⟩ := h
  have hn : 0 < n := by
    rcases Nat.eq_zero_or_pos n with rfl | hn
    · simp at hzone
    · exact hn
  exact Nat.div_lt_of_lt_mul (Nat.mul_lt_mul_of_pos_right hword hn)

variable [Source σ]

theorem yields_below32 {n : Nat} (hn : n ≠ 0) : Yields (below32 n : Draw σ Nat) (· < n) := by
  intro source
  rw [below32, if_neg hn]
  rcases yields_until32 (fun w => position? 32 n w.toNat) source with h | ⟨i, later, hi, h⟩
  · exact Or.inl h
  · obtain ⟨w, hw⟩ := hi
    exact Or.inr ⟨i, later, position?_lt w.toNat_lt hw, h⟩

theorem yields_below64 {n : Nat} (hn : n ≠ 0) : Yields (below64 n : Draw σ Nat) (· < n) := by
  intro source
  rw [below64, if_neg hn]
  rcases yields_until64 (fun w => position? 64 n w.toNat) source with h | ⟨i, later, hi, h⟩
  · exact Or.inl h
  · obtain ⟨w, hw⟩ := hi
    exact Or.inr ⟨i, later, position?_lt w.toNat_lt hw, h⟩

theorem yields_item32 {items : Array α} (h : items.size ≠ 0) :
    Yields (item32 items : Draw σ α) (· ∈ items) :=
  (yields_below32 h).bind fun _ hi => yields_itemAt hi

theorem yields_item64 {items : Array α} (h : items.size ≠ 0) :
    Yields (item64 items : Draw σ α) (· ∈ items) :=
  (yields_below64 h).bind fun _ hi => yields_itemAt hi

theorem yields_int64 {min max : Int64} (h : min ≤ max) :
    Yields (int64 min max : Draw σ Int64) fun n => min ≤ n ∧ n ≤ max := by
  have hlow : -2 ^ 63 ≤ min.toInt := min.le_toInt
  have hhigh : max.toInt < 2 ^ 63 := max.toInt_lt
  have hnot : ¬ max < min := Int64.not_lt.2 h
  rw [Int64.le_iff_toInt_le] at h
  rw [int64, if_neg hnot]
  dsimp only
  split
  · rename_i hfull
    have hsize : UInt64.size = 2 ^ 64 := rfl
    refine yields_word64.bind fun word _ => yields_pure ?_
    rw [Int64.le_iff_toInt_le, Int64.le_iff_toInt_le]
    have hword := word.toInt64.le_toInt
    have hword' := word.toInt64.toInt_lt
    constructor <;> omega
  · refine (yields_below64 (by omega)).bind fun i hi => yields_pure ?_
    rw [Int64.le_iff_toInt_le, Int64.le_iff_toInt_le,
      Int64.toInt_ofInt_of_le (by omega) (by omega)]
    constructor <;> omega

theorem double_of_le {min max : Binary64} (h : max.le min) :
    (double min max : Draw σ Binary64) = pure min := by
  rw [double]
  exact if_pos h

def between? (min max : Binary64) (word : UInt64) : Option Binary64 :=
  let x := stretch min (Binary64.sub max min) word
  if x.lt max then some x else none

omit [Source σ] in
theorem between?_eq_some_iff {min max x : Binary64} {word : UInt64} :
    between? min max word = some x ↔
      (stretch min (Binary64.sub max min) word).lt max ∧
        stretch min (Binary64.sub max min) word = x := by
  rw [between?, Option.ite_none_right_eq_some, Option.some.injEq]

/-- Between two bounds in order a double is what the first accepted word is taken for. -/
theorem double_of_lt {min max : Binary64} (hlt : min.lt max)
    (hwidth : (Binary64.sub max min).isFinite) :
    (double min max : Draw σ Binary64) = until64 (between? min max) := by
  have hback := Binary64.le_eq_false_of_lt hlt
  rw [double]
  simp only [hback, hlt, hwidth]
  rfl

/-- A double that is drawn between two bounds is a stretched unit that lies below the upper one. -/
theorem yields_double_of_lt {min max : Binary64} {good : Binary64 → Prop} (hlt : min.lt max)
    (hwidth : (Binary64.sub max min).isFinite)
    (hgood : ∀ word, (stretch min (Binary64.sub max min) word).lt max →
      good (stretch min (Binary64.sub max min) word)) :
    Yields (double min max : Draw σ Binary64) good := by
  intro source
  rw [double_of_lt hlt hwidth]
  rcases yields_until64 (between? min max) source with h | ⟨x, later, ⟨w, hw⟩, h⟩
  · exact Or.inl h
  · obtain ⟨hx, rfl⟩ := between?_eq_some_iff.1 hw
    exact Or.inr ⟨_, later, hgood w hx, h⟩

theorem yields_double {min max : Binary64} (hle : min.le max)
    (hwidth : (Binary64.sub max min).isFinite) :
    Yields (double min max : Draw σ Binary64) fun x => x = min ∨ x.lt max := by
  cases hback : max.le min with
  | true =>
    rw [double_of_le hback]
    exact yields_pure (Or.inl rfl)
  | false =>
    exact yields_double_of_lt (Binary64.lt_of_le_eq_false hle hback) hwidth
      fun word hword => Or.inr hword

end Uniform

end Fixture
