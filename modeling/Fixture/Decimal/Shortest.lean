import Fixture.Decimal.Basic

/-!
# The shortest decimal of a double

Of the decimal numbers that read back to a double, the shortest have the fewest digits, and
of those the nearest to the double is taken. A double is read back from every number between
the midpoints to its two neighbours; the midpoints themselves belong to it when its ordinal
is even. A double is looked for on the decimal grids of one digit, two digits and so on: if
any point of a grid reads back, then so does one of the two grid points next to the double.
Seventeen digits always suffice. Two nearest points are equally near only half-way between
them, and which is then taken is left to a choice of `Tie`.
-/

namespace Fixture.Decimal

/-- Which of two equally near decimal numbers is taken: the one of larger magnitude, or the
one whose last digit is even. -/
inductive Tie where
  | up
  | even
deriving DecidableEq, Repr

/-- The exponent `e` for which the double of ordinal `k`, not zero, is at least `10 ^ e` and
below `10 ^ (e + 1)`. -/
def magnitude (k : Nat) : Int :=
  (width (Binary64.units k * tenTo 324 / Binary64.unitsInOne) : Int) - 325

/-- The grid point next to the double of ordinal `k`, among the multiples of
`10 ^ exponent`, that reads back to it: the nearer one if both do. -/
def nextTo? (tie : Tie) (k : Nat) (exponent : Int) : Option Nat :=
  let scale := tenTo (-exponent).toNat
  let step := 2 * Binary64.unitsInOne * tenTo exponent.toNat
  let low := (Binary64.units (k - 1) + Binary64.units k) * scale
  let middle := 2 * Binary64.units k * scale
  let high := (Binary64.units k + Binary64.units (k + 1)) * scale
  let readsBack (point : Nat) : Bool :=
    if k % 2 = 0 then low ≤ point * step && point * step ≤ high
    else low < point * step && point * step < high
  let below := middle / step
  let above := below + 1
  let twice := 2 * (middle % step)
  let belowFirst := twice < step || (twice = step && tie = .even && below % 2 = 0)
  if readsBack below && (belowFirst || !readsBack above) then some below
  else if readsBack above then some above
  else none

def shortest (tie : Tie) (k : Nat) : Decimal :=
  if k = 0 then ⟨0, 0⟩
  else
    let top := magnitude k
    let found := (List.range 17).findSome? fun (n : Nat) =>
      (nextTo? tie k (top - n)).map fun digits => Decimal.mk digits (top - n)
    (found.getD ⟨0, 0⟩).shortened

end Fixture.Decimal
