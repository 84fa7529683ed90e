/-!
# Doubles

A double is kept as its 64 bits. Without the sign bit these count the doubles that are not
negative in increasing order: `ordinal` is that count, zero has ordinal 0, and the ordinal
of infinity closes the finite ones. Every finite double is a whole number of *units*, a unit
being the smallest double that is not zero, 2⁻¹⁰⁷⁴. So exact values are integers, and no
rational number is needed to say what a double is.
-/

namespace Fixture

/-- A floating-point number of the 64-bit interchange format, by its bits. -/
structure Binary64 where
  bits : UInt64
deriving DecidableEq, Repr

namespace Binary64

/-- How many doubles there are from a power of two up to the next one, 2⁵². -/
def binade : Nat := 0x10000000000000

def signBit : Nat := 0x8000000000000000

/-- The ordinal of infinity; beyond it are the bit patterns that are no number. -/
def infinityOrdinal : Nat := 2047 * binade

def negative (x : Binary64) : Bool :=
  signBit ≤ x.bits.toNat

def ordinal (x : Binary64) : Nat :=
  x.bits.toNat % signBit

def ofOrdinal (negative : Bool) (k : Nat) : Binary64 :=
  ⟨UInt64.ofNat (if negative then signBit + k else k)⟩

def isNaN (x : Binary64) : Bool :=
  infinityOrdinal < x.ordinal

def isInfinite (x : Binary64) : Bool :=
  x.ordinal = infinityOrdinal

def isFinite (x : Binary64) : Bool :=
  x.ordinal < infinityOrdinal

/-- How many units the double of ordinal `k` is: below ordinal 2⁵³ the doubles are one unit
apart, and each further 2⁵² of them are twice as far apart as those before. -/
def units (k : Nat) : Nat :=
  if k < 2 * binade then k else (binade + k % binade) <<< (k / binade - 1)

/-- The exact value of a finite double, in units. -/
def value (x : Binary64) : Int :=
  if x.negative then -(units x.ordinal : Int) else (units x.ordinal : Int)

/-- The place of a double in the order of the numbers; the two zeros share theirs. -/
def rank (x : Binary64) : Int :=
  if x.negative then -(x.ordinal : Int) else (x.ordinal : Int)

def nan : Binary64 := ⟨0x7FF8000000000000⟩

def zero : Binary64 := ⟨0⟩

def infinity (negative : Bool) : Binary64 :=
  ofOrdinal negative infinityOrdinal

/-- `x < y`; never, when one of them is no number. -/
def lt (x y : Binary64) : Bool :=
  !x.isNaN && !y.isNaN && x.rank < y.rank

def le (x y : Binary64) : Bool :=
  !x.isNaN && !y.isNaN && x.rank ≤ y.rank

end Binary64

end Fixture
