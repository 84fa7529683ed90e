import Fixture.Binary64.Arithmetic

/-!
# Rates

How many documents were written in a second, as a double: the number of documents over the
duration in seconds. A duration is seconds and nanoseconds, each made a double on its own.
Where no time went by the rate is zero.
-/

namespace Fixture.Rate

def nanosecondsInSecond : Nat := 1000000000

def seconds (seconds nanoseconds : Nat) : Binary64 :=
  let whole := seconds + nanoseconds / nanosecondsInSecond
  let part := Binary64.div (Binary64.ofNat (nanoseconds % nanosecondsInSecond))
    (Binary64.ofNat nanosecondsInSecond)
  Binary64.add (Binary64.ofNat whole) part

def documentsPerSecond (documents : Nat) (duration : Binary64) : Binary64 :=
  if Binary64.zero.lt duration then Binary64.div (Binary64.ofNat documents) duration
  else Binary64.zero

end Fixture.Rate
