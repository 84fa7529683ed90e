/-!
# Sources of random words

A source gives one word after another, of 32 or of 64 bits as it is asked for. Drawing is a
state: it passes the source on, and it can halt, which ends everything that goes on. A draw
that is repeated until a word is accepted looks at as many words as the source has to show
before it shows nothing new, its *horizon*; a source none of whose words is accepted halts it.
-/

namespace Fixture

inductive Halt where
  /-- There is nothing between the bounds. -/
  | emptyRange
  /-- The distance of the bounds is no finite double. -/
  | wideRange
  /-- A position has no item. -/
  | missingItem
  /-- The source never gives a word that is accepted. -/
  | endless
deriving DecidableEq, Repr

def Halt.message : Halt → String
  | .emptyRange => "there is nothing between the bounds"
  | .wideRange => "the bounds are too far apart"
  | .missingItem => "there is no item at that position"
  | .endless => "no word is accepted"

/-- A source of random words in a state `σ`. After `horizon` draws, nothing is drawn any
more that has not been drawn in one of them. -/
class Source (σ : Type) where
  word32 : σ → UInt32 × σ
  word64 : σ → UInt64 × σ
  horizon : σ → Nat

abbrev Draw (σ α : Type) := StateT σ (Except Halt) α

namespace Draw

variable {σ α : Type} [Source σ]

def word32 : Draw σ UInt32 :=
  fun source => .ok (Source.word32 source)

def word64 : Draw σ UInt64 :=
  fun source => .ok (Source.word64 source)

/-- What the first accepted word is accepted as, among so many words. -/
def firstAccepted {ω : Type} (word : Draw σ ω) (accept : ω → Option α) : Nat → Draw σ α
  | 0 => throw .endless
  | limit + 1 => do
    match accept (← word) with
    | some a => pure a
    | none => firstAccepted word accept limit

def until32 (accept : UInt32 → Option α) : Draw σ α :=
  fun source => firstAccepted word32 accept (Source.horizon source) source

def until64 (accept : UInt64 → Option α) : Draw σ α :=
  fun source => firstAccepted word64 accept (Source.horizon source) source

end Draw

end Fixture
