import Fixture.Proofs.Text.Trim
import Fixture.Text.Integer
import Mathlib.Algebra.Ring.Int.Defs
import Mathlib.Data.List.Induction

/-!
# What decimals stand for

A numeral is one or more digits: one digit stands for its own value, and a digit behind a numeral
multiplies it by ten and adds its own value. With a sign in front or without one it stands for a
whole number. These are the texts that are read as whole numbers, whatever their length, and the
ones whose number fits in a signed word are read as signed words. The decimal text of a number is
one of them and stands for the number.
-/

namespace Fixture.Text

/-- One or more digits, and the number that they stand for. -/
inductive Numeral : List Char → Nat → Prop
  | digit {c : Char} (h : c.isDigit) : Numeral [c] (c.toNat - '0'.toNat)
  | append {cs : List Char} {n : Nat} {c : Char} (hcs : Numeral cs n) (h : c.isDigit) :
    Numeral (cs ++ [c]) (10 * n + (c.toNat - '0'.toNat))

/-- A numeral with no sign, with a plus sign or with a minus sign, and the whole number that it
stands for. -/
inductive Integral : List Char → Int → Prop
  | plain {cs : List Char} {n : Nat} (h : Numeral cs n) : Integral cs n
  | plus {cs : List Char} {n : Nat} (h : Numeral cs n) : Integral ('+' :: cs) n
  | minus {cs : List Char} {n : Nat} (h : Numeral cs n) : Integral ('-' :: cs) (-n)

theorem natural?_eq_some {cs : List Char} {n : Nat} :
    natural? cs = some n ↔
      cs ≠ [] ∧ (∀ c ∈ cs, c.isDigit) ∧ Nat.ofDigitChars 10 cs 0 = n := by
  rw [natural?, Option.ite_none_right_eq_some, Bool.and_eq_true, List.all_eq_true,
    Option.some.injEq, Bool.not_eq_true', List.isEmpty_eq_false_iff, and_assoc]

theorem numeral_ofDigitChars {cs : List Char} (hne : cs ≠ []) (h : ∀ c ∈ cs, c.isDigit) :
    Numeral cs (Nat.ofDigitChars 10 cs 0) := by
  induction cs using List.reverseRecOn with
  | nil => exact absurd rfl hne
  | append_singleton cs c ih =>
    have hc : c.isDigit := h c (by simp)
    rw [Nat.ofDigitChars_append, Nat.ofDigitChars_cons]
    by_cases hcs : cs = []
    · subst hcs
      have hdigit := Numeral.digit hc
      simpa using hdigit
    · exact (ih hcs fun d hd => h d (by simp [hd])).append hc

theorem natural?_eq_some_iff {cs : List Char} {n : Nat} :
    natural? cs = some n ↔ Numeral cs n := by
  constructor
  · intro h
    obtain ⟨hne, hdigits, rfl⟩ := natural?_eq_some.1 h
    exact numeral_ofDigitChars hne hdigits
  · intro h
    induction h with
    | digit h => simp [natural?, h, Nat.ofDigitChars_cons]
    | append _ h ih =>
      obtain ⟨_, hdigits, hvalue⟩ := natural?_eq_some.1 ih
      refine natural?_eq_some.2 ⟨by simp, ?_, ?_⟩
      · intro d hd
        rcases List.mem_append.1 hd with hd | hd
        · exact hdigits d hd
        · rwa [List.mem_singleton.1 hd]
      · rw [Nat.ofDigitChars_append, hvalue, Nat.ofDigitChars_cons]
        rfl

theorem integer?_of_natural? {cs : List Char} {n : Nat} (h : natural? cs = some n) :
    integer? cs = some (n : Int) := by
  have hdigits := (natural?_eq_some.1 h).2.1
  unfold integer?
  split
  · exact absurd (hdigits '+' (by simp)) (by decide)
  · exact absurd (hdigits '-' (by simp)) (by decide)
  · rw [h]
    rfl

theorem integer?_eq_some_iff {cs : List Char} {n : Int} :
    integer? cs = some n ↔ Integral cs n := by
  constructor
  · intro h
    unfold integer? at h
    split at h
    all_goals
      obtain ⟨_, hcast, rfl⟩ := Option.map_eq_some_iff.1 h
      obtain ⟨m, hm, ⟨⟩⟩ := Option.bind_eq_some_iff.1 hcast
      rw [natural?_eq_some_iff] at hm
    · exact .plus hm
    · exact .minus hm
    · exact .plain hm
  · intro h
    cases h with
    | plain h => exact integer?_of_natural? (natural?_eq_some_iff.2 h)
    | plus h =>
      rw [integer?, natural?_eq_some_iff.2 h]
      rfl
    | minus h =>
      rw [integer?, natural?_eq_some_iff.2 h]
      rfl

/-- A text is read as the signed word whose number it stands for. -/
theorem int64?_eq_some_iff {cs : List Char} {n : Int64} :
    int64? cs = some n ↔ Integral cs n.toInt := by
  have hmin : Int64.minValue.toInt = -2 ^ 63 := rfl
  have hmax : Int64.maxValue.toInt = 2 ^ 63 - 1 := rfl
  rw [← integer?_eq_some_iff, int64?, hmin, hmax]
  constructor
  · intro h
    split at h
    · rename_i m hm
      obtain ⟨⟨hlow, hhigh⟩, heq⟩ := Option.ite_none_right_eq_some.1 h
      rw [← Option.some.inj heq, Int64.toInt_ofInt_of_le hlow (by omega), hm]
    · cases h
  · intro h
    have hlow := n.le_toInt
    have hhigh := n.toInt_lt
    rw [h]
    dsimp only
    rw [if_pos ⟨hlow, by omega⟩, Int64.ofInt_toInt]

theorem int64?_eq_none_iff {cs : List Char} :
    int64? cs = none ↔ ¬ ∃ m, Integral cs m ∧ -2 ^ 63 ≤ m ∧ m ≤ 2 ^ 63 - 1 := by
  constructor
  · rintro hnone ⟨m, hm, hlow, hhigh⟩
    have hword : (Int64.ofInt m).toInt = m := Int64.toInt_ofInt_of_le hlow (by omega)
    rw [int64?_eq_some_iff.2 (hword.symm ▸ hm)] at hnone
    cases hnone
  · intro hnone
    cases h : int64? cs with
    | none => rfl
    | some n =>
      have hhigh := n.toInt_lt
      exact absurd ⟨n.toInt, int64?_eq_some_iff.1 h, n.le_toInt, by omega⟩ hnone

theorem integral_decimal (n : Int) : Integral (decimal n) n := by
  cases n with
  | ofNat n => exact .plain (natural?_eq_some_iff.1 (natural?_toDigits n))
  | negSucc n => exact .minus (natural?_eq_some_iff.1 (natural?_toDigits (n + 1)))

theorem of_mem_decimal {n : Int} {c : Char} (h : c ∈ decimal n) : c = '-' ∨ c.isDigit := by
  cases n with
  | ofNat n => exact .inr (Nat.isDigit_of_mem_toDigits (by decide) (by decide) h)
  | negSucc n =>
    rcases List.mem_cons.1 h with hminus | hdigit
    · exact .inl hminus
    · exact .inr (Nat.isDigit_of_mem_toDigits (by decide) (by decide) hdigit)

theorem isBlank_of_isDigit {c : Char} (h : c.isDigit) : isBlank c = false := by
  obtain ⟨hlow, hhigh⟩ := Char.isDigit_iff_toNat.1 h
  have hzero : '0'.toNat = 48 := rfl
  have hnine : '9'.toNat = 57 := rfl
  simp only [isBlank, blankRanges, within_cons, within_nil, Bool.or_false, Bool.or_eq_false_iff,
    Bool.and_eq_false_iff, decide_eq_false_iff_not]
  omega

theorem isBlank_of_mem_decimal {n : Int} {c : Char} (h : c ∈ decimal n) : isBlank c = false := by
  rcases of_mem_decimal h with rfl | hdigit
  · decide
  · exact isBlank_of_isDigit hdigit

theorem bare_decimal (n : Int) : Bare (decimal n) where
  head _ hc := isBlank_of_mem_decimal (List.mem_of_mem_head? hc)
  last _ hc := isBlank_of_mem_decimal (List.mem_of_mem_getLast? hc)

end Fixture.Text
