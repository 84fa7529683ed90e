import Fixture.Decimal.Basic
import Fixture.Json.Basic
import Fixture.Json.Fault

/-!
# Reading JSON numbers

A number is a minus sign or none, whole digits with no zero in front, and optionally a point
with digits and an exponent with digits. `scanNumber` reads one off the front of a text.

A number must not be too large for a double, and how that is judged is part of the format:
the digits are taken into a 64-bit word for as long as they fit, what is left out counts as a
power of ten, and the word, as a double, times that power must be finite. An exponent that
does not fit a signed 32-bit word is refused at the digit that makes it too large, unless it
is negative or the number is zero.
-/

namespace Fixture.Json

def digitValue (c : Char) : Nat :=
  c.toNat - '0'.toNat

/-- Take digits into a word for as long as it stays below `limit`: the word, and the digits
that were not taken. -/
def absorb (limit : Nat) : Nat → List Char → Nat × List Char
  | word, [] => (word, [])
  | word, c :: cs =>
    let next := word * 10 + digitValue c
    if next < limit then absorb limit next cs else (word, c :: cs)

def exponentLimit : Nat := 0x80000000

structure NumberParts where
  whole : List Char
  fraction : List Char
  exponentNegative : Bool
  exponent : List Char
deriving Repr

namespace NumberParts

/-- The digits that a number is judged by, and the power of ten that they are short of it
before its written exponent. -/
def significand (parts : NumberParts) : Nat × Int :=
  let (word, left) := absorb UInt64.size 0 parts.whole
  let (word, skipped) := absorb UInt64.size word parts.fraction
  (word, left.length - (parts.fraction.length - skipped.length : Nat))

def exponentValue (parts : NumberParts) : Int :=
  let n := Nat.ofDigitChars 10 parts.exponent 0
  if parts.exponentNegative then -(n : Int) else (n : Int)

def overflows (word : Nat) (exponent : Int) : Bool :=
  if word = 0 ∨ exponent < 0 then false
  else if 308 < exponent then true
  else
    let power := Binary64.ofNat (Decimal.tenTo exponent.toNat)
    !(Binary64.mul (Binary64.ofNat word) power).isFinite

def toJson (negative : Bool) (parts : NumberParts) : Json :=
  if parts.fraction.isEmpty && parts.exponent.isEmpty then
    let n := Nat.ofDigitChars 10 parts.whole 0
    .int (if negative then -(n : Int) else (n : Int))
  else
    let digits := Nat.ofDigitChars 10 (parts.whole ++ parts.fraction) 0
    .real (Decimal.toBinary64 negative
      ⟨digits, parts.exponentValue - parts.fraction.length⟩)

end NumberParts

def scanDigits (cs : List Char) : Except Fault (List Char × List Char) :=
  let digits := cs.takeWhile Char.isDigit
  if !digits.isEmpty then .ok (digits, cs.dropWhile Char.isDigit)
  else if cs.isEmpty then .error (.atEnd .valueEnds)
  else .error (.at .invalidNumber cs)

/-- The whole digits: a zero is not followed by another digit. -/
def scanWhole (cs : List Char) : Except Fault (List Char × List Char) :=
  match scanDigits cs with
  | .ok ('0' :: d :: digits, rest) => .error (.at .invalidNumber (d :: digits ++ rest))
  | found => found

def scanFraction : List Char → Except Fault (List Char × List Char)
  | '.' :: cs => scanDigits cs
  | cs => .ok ([], cs)

def scanExponentSign : List Char → Bool × List Char
  | '-' :: cs => (true, cs)
  | '+' :: cs => (false, cs)
  | cs => (false, cs)

theorem length_scanExponentSign_le (cs : List Char) :
    (scanExponentSign cs).2.length ≤ cs.length := by
  unfold scanExponentSign
  split <;> simp

def scanExponent : List Char → Except Fault (Bool × List Char × List Char)
  | c :: cs =>
    if c = 'e' ∨ c = 'E' then
      (scanDigits (scanExponentSign cs).2).map fun found => ((scanExponentSign cs).1, found)
    else .ok (false, [], c :: cs)
  | [] => .ok (false, [], [])

/-- Whether a number is too large, and with what text unread that is found; `rest` is the
text after the number. -/
def NumberParts.check (parts : NumberParts) (rest : List Char) : Except Fault Unit :=
  let (word, exponent) := parts.significand
  match absorb exponentLimit 0 parts.exponent with
  | (_, []) =>
    if overflows word (exponent + parts.exponentValue) then
      .error ⟨.numberOutOfRange, rest, 0⟩
    else .ok ()
  | (_, _ :: skipped) =>
    if word ≠ 0 && !parts.exponentNegative then
      .error ⟨.numberOutOfRange, skipped ++ rest, 0⟩
    else .ok ()

def scanParts (cs : List Char) : Except Fault (NumberParts × List Char) :=
  match scanWhole cs with
  | .error fault => .error fault
  | .ok (whole, cs) =>
    match scanFraction cs with
    | .error fault => .error fault
    | .ok (fraction, cs) =>
      match scanExponent cs with
      | .error fault => .error fault
      | .ok (negative, exponent, cs) =>
        let parts : NumberParts := ⟨whole, fraction, negative, exponent⟩
        match parts.check cs with
        | .error fault => .error fault
        | .ok () => .ok (parts, cs)

def scanNumber (cs : List Char) : Except Fault (Json × List Char) :=
  let (negative, digits) := match cs with
    | '-' :: cs => (true, cs)
    | cs => (false, cs)
  match scanParts digits with
  | .error fault => .error fault
  | .ok (parts, rest) => .ok (parts.toJson negative, rest)

theorem length_lt_of_scanDigits {cs digits rest : List Char}
    (h : scanDigits cs = .ok (digits, rest)) : rest.length < cs.length := by
  unfold scanDigits at h
  have hl := congrArg List.length (List.takeWhile_append_dropWhile (p := Char.isDigit) (l := cs))
  rw [List.length_append] at hl
  dsimp only at h
  split at h
  · rename_i hne
    simp only [Except.ok.injEq, Prod.mk.injEq] at h
    rw [← h.2]
    have hpos : 0 < (cs.takeWhile Char.isDigit).length :=
      List.length_pos_iff.2 fun he => by simp [he] at hne
    omega
  · split at h <;> exact nomatch h

theorem length_lt_of_scanWhole {cs digits rest : List Char}
    (h : scanWhole cs = .ok (digits, rest)) : rest.length < cs.length := by
  unfold scanWhole at h
  split at h
  · exact nomatch h
  · exact length_lt_of_scanDigits h

theorem length_le_of_scanFraction {cs digits rest : List Char}
    (h : scanFraction cs = .ok (digits, rest)) : rest.length ≤ cs.length := by
  unfold scanFraction at h
  split at h
  · have hl := length_lt_of_scanDigits h
    rw [List.length_cons]
    omega
  · simp only [Except.ok.injEq, Prod.mk.injEq] at h
    exact Nat.le_of_eq (by rw [h.2])

theorem length_le_of_scanExponent {cs digits rest : List Char} {negative : Bool}
    (h : scanExponent cs = .ok (negative, digits, rest)) : rest.length ≤ cs.length := by
  unfold scanExponent at h
  split at h
  · rename_i c cs
    split at h
    · cases hd : scanDigits (scanExponentSign cs).2 with
      | error fault => simp [hd, Except.map] at h
      | ok found =>
        obtain ⟨ds, after⟩ := found
        simp only [hd, Except.map, Except.ok.injEq, Prod.mk.injEq] at h
        have hl := length_lt_of_scanDigits hd
        have hs := length_scanExponentSign_le cs
        rw [← h.2.2, List.length_cons]
        omega
    · simp only [Except.ok.injEq, Prod.mk.injEq] at h
      exact Nat.le_of_eq (by rw [h.2.2])
  · simp only [Except.ok.injEq, Prod.mk.injEq] at h
    exact Nat.le_of_eq (by rw [h.2.2])

theorem length_lt_of_scanParts {cs rest : List Char} {parts : NumberParts}
    (h : scanParts cs = .ok (parts, rest)) : rest.length < cs.length := by
  unfold scanParts at h
  split at h
  · exact nomatch h
  · rename_i whole after hw
    have h1 := length_lt_of_scanWhole hw
    split at h
    · exact nomatch h
    · rename_i fraction after hf
      have h2 := length_le_of_scanFraction hf
      split at h
      · exact nomatch h
      · rename_i negative exponent after he
        have h3 := length_le_of_scanExponent he
        dsimp only at h
        split at h
        · exact nomatch h
        · simp only [Except.ok.injEq, Prod.mk.injEq] at h
          rw [← h.2]
          omega

theorem length_lt_of_scanNumber {cs rest : List Char} {value : Json}
    (h : scanNumber cs = .ok (value, rest)) : rest.length < cs.length := by
  unfold scanNumber at h
  dsimp only at h
  split at h
  · exact nomatch h
  · rename_i parts after hp
    have hl := length_lt_of_scanParts hp
    simp only [Except.ok.injEq, Prod.mk.injEq] at h
    rw [← h.2]
    split at hl
    · exact Nat.lt_succ_of_lt hl
    · exact hl

end Fixture.Json
