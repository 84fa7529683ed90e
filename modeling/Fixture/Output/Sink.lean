/-!
# Sinks

A sink receives bytes, and may have room for only so many in all. A write that does not fit
leaves as much of itself in the sink as fits, and fails.
-/

namespace Fixture

/-- The bytes received so far, and how many more there is room for; without a number there
is always room. -/
structure Sink where
  received : ByteArray
  room : Option Nat

namespace Sink

def unlimited : Sink := ⟨ByteArray.empty, none⟩

def limited (room : Nat) : Sink := ⟨ByteArray.empty, some room⟩

/-- Write bytes: whether all of them fit, and the sink afterwards. -/
def write (sink : Sink) (bytes : ByteArray) : Bool × Sink :=
  match sink.room with
  | none => (true, ⟨sink.received ++ bytes, none⟩)
  | some room =>
    if bytes.size ≤ room then (true, ⟨sink.received ++ bytes, some (room - bytes.size)⟩)
    else (false, ⟨sink.received ++ bytes.extract 0 room, some 0⟩)

theorem write_of_room_none {sink : Sink} (h : sink.room = none) (bytes : ByteArray) :
    sink.write bytes = (true, ⟨sink.received ++ bytes, none⟩) := by
  simp [write, h]

theorem write_fst_eq_true_iff (sink : Sink) (bytes : ByteArray) :
    (sink.write bytes).1 = true ↔ ∀ room, sink.room = some room → bytes.size ≤ room := by
  unfold write
  cases sink.room with
  | none => simp
  | some room => by_cases h : bytes.size ≤ room <;> simp [h]

end Sink

end Fixture
