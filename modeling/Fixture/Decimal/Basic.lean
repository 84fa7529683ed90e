import Fixture.Binary64.Arithmetic

/-!
# Decimal numbers

A decimal number is a natural number times a power of ten. `toBinary64` takes it to the
nearest double.
-/

namespace Fixture

/-- The number `digits * 10 ^ exponent`. -/
structure Decimal where
  digits : Nat
  exponent : Int
deriving DecidableEq, Repr

namespace Decimal

def tenTo (k : Nat) : Nat :=
  Nat.pow 10 k

/-- How many decimal digits a natural number has; zero has one. -/
def width (n : Nat) : Nat :=
  (Nat.toDigits 10 n).length

/-- The same number with no zero at the end of its digits. -/
def shortened (d : Decimal) : Decimal :=
  go (width d.digits) d.digits d.exponent
where
  /-- Drop a zero at the end of `digits`, as often as `steps` allows. -/
  go : Nat → Nat → Int → Decimal
    | 0, digits, exponent => ⟨digits, exponent⟩
    | steps + 1, digits, exponent =>
      if digits ≠ 0 ∧ digits % 10 = 0 then go steps (digits / 10) (exponent + 1)
      else ⟨digits, exponent⟩

/-- The double nearest to the number, with a sign. A number of 10³¹⁰ or more is past every
double and one below 10⁻³²⁴ is nearer to zero than to any other, so that no power of ten of
another size is ever computed. -/
def toBinary64 (negative : Bool) (d : Decimal) : Binary64 :=
  if d.digits = 0 then Binary64.ofOrdinal negative 0
  else
    let top : Int := width d.digits + d.exponent
    if 310 < top then Binary64.infinity negative
    else if top < -324 then Binary64.ofOrdinal negative 0
    else if 0 ≤ d.exponent then
      Binary64.ofRatio negative (d.digits * tenTo d.exponent.toNat) 1
    else Binary64.ofRatio negative d.digits (tenTo (-d.exponent).toNat)

end Decimal

end Fixture
