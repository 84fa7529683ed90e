/-!
# Whole numbers in decimal

A whole number is read from an optional sign and one or more of the digits `0` to `9`, with
nothing before, between or after; leading zeros do not count. `decimal` writes it with a
minus sign where there is need of one and with no zero in front.
-/

namespace Fixture.Text

def natural? (cs : List Char) : Option Nat :=
  if !cs.isEmpty && cs.all Char.isDigit then some (Nat.ofDigitChars 10 cs 0) else none

def integer? : List Char → Option Int
  | '+' :: cs => (natural? cs).map fun n => (n : Int)
  | '-' :: cs => (natural? cs).map fun n => -(n : Int)
  | cs => (natural? cs).map fun n => (n : Int)

def int64? (cs : List Char) : Option Int64 :=
  match integer? cs with
  | some n =>
    if Int64.minValue.toInt ≤ n ∧ n ≤ Int64.maxValue.toInt then some (Int64.ofInt n)
    else none
  | none => none

/-- A number that is read as an unsigned word: a plus sign is allowed, a minus sign is not. -/
def word64? (cs : List Char) : Option UInt64 :=
  let digits := match cs with
    | '+' :: cs => cs
    | cs => cs
  match natural? digits with
  | some n => if n < UInt64.size then some (UInt64.ofNat n) else none
  | none => none

def decimal : Int → List Char
  | .ofNat n => Nat.toDigits 10 n
  | .negSucc n => '-' :: Nat.toDigits 10 (n + 1)

theorem natural?_toDigits (n : Nat) : natural? (Nat.toDigits 10 n) = some n := by
  have h : (Nat.toDigits 10 n).all Char.isDigit = true :=
    List.all_eq_true.2 fun c hc => Nat.isDigit_of_mem_toDigits (by decide) (by decide) hc
  simp [natural?, h, Nat.toDigits_ne_nil, Nat.ofDigitChars_ten_toDigits]

end Fixture.Text
