import Fixture.Binary64.Basic

/-!
# Arithmetic of doubles

Each operation takes the exact result of its operands' exact values and rounds it once, to
the nearest double and at equal distance to the one of even ordinal; past the largest double
the result is infinite. All roundings go through `nearest`, which takes a quotient of natural
numbers to the ordinal of the nearest double. Infinities and bit patterns that are no number
are kept apart in front of it.
-/

namespace Fixture.Binary64

/-- The whole number nearest to `num / den`, the even one when two are equally near. -/
def divideEven (num den : Nat) : Nat :=
  let quotient := num / den
  let twice := 2 * (num % den)
  if twice < den ∨ (twice = den ∧ quotient % 2 = 0) then quotient else quotient + 1

/-- The ordinal of the double nearest to `num / den` units. -/
def nearest (num den : Nat) : Nat :=
  let quotient := num / den
  let shift := if quotient < 2 * binade then 0 else quotient.log2 - 52
  min (shift * binade + divideEven num (den <<< shift)) infinityOrdinal

def unitsInOne : Nat := 1 <<< 1074

/-- The double nearest to the number `num / den`, with this sign. -/
def ofRatio (negative : Bool) (num den : Nat) : Binary64 :=
  ofOrdinal negative (nearest (num * unitsInOne) den)

def ofNat (n : Nat) : Binary64 :=
  ofRatio false n 1

def ofInt (n : Int) : Binary64 :=
  ofRatio (n < 0) n.natAbs 1

def neg (x : Binary64) : Binary64 :=
  ofOrdinal (!x.negative) x.ordinal

/-- The sum. One that is exactly zero is negative only if both operands are. -/
def add (x y : Binary64) : Binary64 :=
  if x.isNaN || y.isNaN then nan
  else if x.isInfinite then
    if y.isInfinite && x.negative != y.negative then nan else x
  else if y.isInfinite then y
  else
    let sum := x.value + y.value
    if sum = 0 then ofOrdinal (x.negative && y.negative) 0
    else ofOrdinal (sum < 0) (nearest sum.natAbs 1)

def sub (x y : Binary64) : Binary64 :=
  add x (neg y)

def mul (x y : Binary64) : Binary64 :=
  let sign := x.negative != y.negative
  if x.isNaN || y.isNaN then nan
  else if x.isInfinite || y.isInfinite then
    if x.ordinal = 0 || y.ordinal = 0 then nan else infinity sign
  else ofOrdinal sign (nearest (units x.ordinal * units y.ordinal) unitsInOne)

def div (x y : Binary64) : Binary64 :=
  let sign := x.negative != y.negative
  if x.isNaN || y.isNaN then nan
  else if x.isInfinite then if y.isInfinite then nan else infinity sign
  else if y.isInfinite then ofOrdinal sign 0
  else if y.ordinal = 0 then if x.ordinal = 0 then nan else infinity sign
  else ofOrdinal sign (nearest (units x.ordinal * unitsInOne) (units y.ordinal))

end Fixture.Binary64
