import Fixture.Producer

/-!
# Batches

A batch is a number of documents still to be made for a schema. They are made one at a time,
each when it is asked for and not before, and an error is the last thing a batch gives.
-/

namespace Fixture

structure Batch where
  schema : Schema
  remaining : Nat
deriving DecidableEq, Repr

namespace Batch

variable {σ : Type} [Source σ]

def next (batch : Batch) (producer : Producer σ) :
    Except Halt (Option (Except FieldError Document) × Batch × Producer σ) :=
  match batch.remaining with
  | 0 => .ok (none, batch, producer)
  | remaining + 1 =>
    match producer.document batch.schema with
    | .error halt => .error halt
    | .ok (.error error, producer) => .ok (some (.error error), ⟨batch.schema, 0⟩, producer)
    | .ok (.ok document, producer) =>
      .ok (some (.ok document), ⟨batch.schema, remaining⟩, producer)

/-- The fewest and the most things that the batch may still give. -/
def bounds (batch : Batch) : Nat × Nat :=
  (0, batch.remaining)

end Batch

end Fixture
