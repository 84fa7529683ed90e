import Fixture.Random.Source

/-!
# The ChaCha stream

The words of the ChaCha stream cipher with twelve rounds, for a key, the block counter from
zero on and no nonce. A block is sixteen words; the stream is the words of block 0, then those of
block 1, and so on, and starts again after the last block. A draw of 64 bits is two words,
the low half first. The key of a seed comes from eight steps of a linear congruence, each of
which is folded down to 32 bits and rotated.
-/

namespace Fixture

namespace ChaCha

abbrev Block := Vector UInt32 16

abbrev Key := Vector UInt32 8

def rotate (x : UInt32) (n : UInt32) : UInt32 :=
  (x <<< n) ||| (x >>> (32 - n))

def quarterRound (x : Block) (a b c d : Fin 16) : Block :=
  let x := x.set a (x[a] + x[b])
  let x := x.set d (rotate (x[d] ^^^ x[a]) 16)
  let x := x.set c (x[c] + x[d])
  let x := x.set b (rotate (x[b] ^^^ x[c]) 12)
  let x := x.set a (x[a] + x[b])
  let x := x.set d (rotate (x[d] ^^^ x[a]) 8)
  let x := x.set c (x[c] + x[d])
  x.set b (rotate (x[b] ^^^ x[c]) 7)

def doubleRound (x : Block) : Block :=
  let x := quarterRound x 0 4 8 12
  let x := quarterRound x 1 5 9 13
  let x := quarterRound x 2 6 10 14
  let x := quarterRound x 3 7 11 15
  let x := quarterRound x 0 5 10 15
  let x := quarterRound x 1 6 11 12
  let x := quarterRound x 2 7 8 13
  quarterRound x 3 4 9 14

/-- What a block is mixed from: four constants, the key, and the counter, low half first. -/
def start (key : Key) (counter : UInt64) : Block :=
  #v[0x61707865, 0x3320646e, 0x79622d32, 0x6b206574,
    key[0], key[1], key[2], key[3], key[4], key[5], key[6], key[7],
    counter.toUInt32, (counter >>> 32).toUInt32, 0, 0]

def block (key : Key) (counter : UInt64) : Block :=
  let first := start key counter
  let mixed := Nat.repeat doubleRound 6 first
  mixed.zipWith (· + ·) first

def advance (x : UInt64) : UInt64 :=
  x * 6364136223846793005 + 11634580027462260723

def fold (x : UInt64) : UInt32 :=
  let folded := (((x >>> 18) ^^^ x) >>> 27).toUInt32
  let turn := (x >>> 59).toUInt32
  (folded >>> turn) ||| (folded <<< ((32 - turn) % 32))

def keyOfSeed (seed : UInt64) : Key :=
  Vector.ofFn fun i : Fin 8 => fold (Nat.repeat advance (i + 1) seed)

end ChaCha

/-- A place in the stream of a key: the number of a block, the block, and which of its words
comes next. -/
structure ChaCha where
  key : ChaCha.Key
  counter : UInt64
  index : Fin 16
  words : ChaCha.Block
  words_eq : words = ChaCha.block key counter

namespace ChaCha

def atBlock (key : Key) (counter : UInt64) : ChaCha :=
  ⟨key, counter, 0, block key counter, rfl⟩

def ofSeed (seed : UInt64) : ChaCha :=
  atBlock (keyOfSeed seed) 0

def next (stream : ChaCha) : UInt32 × ChaCha :=
  (stream.words[stream.index],
    if stream.index = 15 then atBlock stream.key (stream.counter + 1)
    else { stream with index := stream.index + 1 })

def nextPair (stream : ChaCha) : UInt64 × ChaCha :=
  let (low, stream) := stream.next
  let (high, stream) := stream.next
  (low.toUInt64 ||| (high.toUInt64 <<< 32), stream)

/-- The stream starts again after 2⁶⁴ blocks. -/
instance : Source ChaCha where
  word32 := next
  word64 := nextPair
  horizon := fun _ => 16 * UInt64.size

end ChaCha

end Fixture
