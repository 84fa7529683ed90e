import Fixture.Decimal.Basic

/-!
# Reading doubles

A double is written as an optional sign and either one of the words `inf`, `infinity` and
`nan`, in letters of any case, or a decimal number: digits with an optional point, at least
one digit on either side of it, and an optional exponent. Nothing may stand before, between
or after. A decimal number is read as the nearest double.
-/

namespace Fixture.Decimal

def leadingDigits (cs : List Char) : List Char × List Char :=
  (cs.takeWhile Char.isDigit, cs.dropWhile Char.isDigit)

def leadingSign : List Char → Bool × List Char
  | '-' :: cs => (true, cs)
  | '+' :: cs => (false, cs)
  | cs => (false, cs)

/-- The exponent that stands after the digits of a number; none is the exponent zero. -/
def exponent? : List Char → Option Int
  | [] => some 0
  | c :: cs =>
    if c = 'e' ∨ c = 'E' then
      let (negative, digits) := leadingSign cs
      if !digits.isEmpty && digits.all Char.isDigit then
        let n := Nat.ofDigitChars 10 digits 0
        some (if negative then -(n : Int) else (n : Int))
      else none
    else none

def read? (cs : List Char) : Option Decimal :=
  let (whole, rest) := leadingDigits cs
  let (fraction, rest) := match rest with
    | '.' :: rest => leadingDigits rest
    | rest => ([], rest)
  if whole.isEmpty && fraction.isEmpty then none
  else (exponent? rest).map fun e =>
    ⟨Nat.ofDigitChars 10 (whole ++ fraction) 0, e - fraction.length⟩

def readBinary64? (cs : List Char) : Option Binary64 :=
  let (negative, cs) := leadingSign cs
  let word := String.ofList (cs.map Char.toLower)
  if word = "inf" ∨ word = "infinity" then some (Binary64.infinity negative)
  else if word = "nan" then some Binary64.nan
  else (read? cs).map (toBinary64 negative)

end Fixture.Decimal
