import Fixture.Decimal.Shortest

/-!
# Writing doubles

A double is written with its shortest digits. A `Layout` fixes the rest: for which decimal
exponents the number is written positionally, whether a whole number keeps `.0`, and which
digits win a tie. Outside the positional exponents the first digit stands before the point
and an exponent with its sign follows. The minus sign of a negative zero is kept.
-/

namespace Fixture.Decimal

/-- The choices in which two ways to write doubles differ. -/
structure Layout where
  /-- Whether a number whose first digit stands for that power of ten is written positionally. -/
  positional : Int → Bool
  /-- Whether a positional number always has a digit after its point. -/
  keepsPoint : Bool
  /-- Which of two equally near decimals is written. -/
  tie : Tie

def positionalText (keepsPoint : Bool) (d : Decimal) : List Char :=
  let digits := Nat.toDigits 10 d.digits
  if 0 ≤ d.exponent then
    digits ++ List.replicate d.exponent.toNat '0' ++ (if keepsPoint then ['.', '0'] else [])
  else
    let places := (-d.exponent).toNat
    let digits := List.replicate (places + 1 - digits.length) '0' ++ digits
    digits.take (digits.length - places) ++ '.' :: digits.drop (digits.length - places)

def exponentText (d : Decimal) : List Char :=
  let digits := Nat.toDigits 10 d.digits
  let exponent : Int := d.exponent + digits.length - 1
  let sign := if exponent < 0 then '-' else '+'
  let point := if digits.length = 1 then [] else ['.']
  digits.take 1 ++ point ++ digits.drop 1 ++ ['e', sign] ++ Nat.toDigits 10 exponent.natAbs

def Layout.text (layout : Layout) (x : Binary64) : List Char :=
  if x.isNaN then ['N', 'a', 'N']
  else
    let sign := if x.negative then ['-'] else []
    if x.isInfinite then sign ++ ['i', 'n', 'f']
    else
      let d := shortest layout.tie x.ordinal
      let exponent : Int := d.exponent + width d.digits - 1
      if layout.positional exponent then sign ++ positionalText layout.keepsPoint d
      else sign ++ exponentText d

/-- Plain text never has an exponent, writes a whole number without a point, and of two
equally near numbers takes the larger magnitude. -/
def plain : Layout where
  positional := fun _ => true
  keepsPoint := false
  tie := .up

end Fixture.Decimal
