import Fixture.Binary64.Arithmetic
import Fixture.Random.Source

/-!
# Uniform draws

A position below `n` is drawn by multiplication: a word times `n` has the position in its
high half. The low half decides whether the word is accepted: it has to lie in a zone whose
size is the largest `n * 2 ^ k` that a word can count, so that every position is chosen by
equally many words. A word that is not accepted is drawn again.

A double below an upper bound is a lower bound plus a multiple of 2⁻⁵² of the distance, with
a rounding after the multiplication and one after the addition. When these reach the upper
bound the word is drawn again.
-/

namespace Fixture.Uniform

variable {σ α : Type} [Source σ]

/-- The position below `n` that a word of so many bits chooses, if it is accepted. -/
def position? (bits n word : Nat) : Option Nat :=
  let product := word * n
  let words := 1 <<< bits
  if product % words < n <<< (bits - 1 - n.log2) then some (product / words) else none

def below32 (n : Nat) : Draw σ Nat :=
  if n = 0 then throw .emptyRange
  else Draw.until32 fun word => position? 32 n word.toNat

def below64 (n : Nat) : Draw σ Nat :=
  if n = 0 then throw .emptyRange
  else Draw.until64 fun word => position? 64 n word.toNat

def itemAt (items : Array α) (position : Nat) : Draw σ α :=
  match items[position]? with
  | some item => pure item
  | none => throw .missingItem

def item32 (items : Array α) : Draw σ α := do
  itemAt items (← below32 items.size)

def item64 (items : Array α) : Draw σ α := do
  itemAt items (← below64 items.size)

/-- A whole number between two bounds, both included. When every signed word is between them
the word that is drawn is the number. -/
def int64 (min max : Int64) : Draw σ Int64 :=
  if max < min then throw .emptyRange
  else
    let count := (max.toInt - min.toInt + 1).toNat
    if count = UInt64.size then do
      return (← Draw.word64).toInt64
    else do
      return Int64.ofInt (min.toInt + (← below64 count))

/-- A multiple of 2⁻⁵² from zero on and below one: the upper 52 bits of a word. -/
def unit (word : UInt64) : Binary64 :=
  Binary64.ofRatio false (word >>> 12).toNat Binary64.binade

def stretch (min width : Binary64) (word : UInt64) : Binary64 :=
  Binary64.add (Binary64.mul (unit word) width) min

/-- A double between two bounds, the upper one excluded; bounds that leave nothing between
them give the lower one. -/
def double (min max : Binary64) : Draw σ Binary64 :=
  let width := Binary64.sub max min
  if max.le min then pure min
  else if !min.lt max then throw .emptyRange
  else if !width.isFinite then throw .wideRange
  else Draw.until64 fun word =>
    let x := stretch min width word
    if x.lt max then some x else none

def doubleWithin (min width : Binary64) : Draw σ Binary64 := do
  return stretch min width (← Draw.word64)

end Fixture.Uniform
