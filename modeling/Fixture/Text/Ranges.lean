/-!
# Sets of characters

A property of characters that a standard gives by a table is kept as the table itself:
a list of closed ranges of code points. The tables stand beside the rules that use them.
-/

namespace Fixture.Text

def within (ranges : List (Nat × Nat)) (c : Char) : Bool :=
  ranges.any fun range => range.1 ≤ c.toNat && c.toNat ≤ range.2

@[simp] theorem within_nil (c : Char) : within [] c = false := rfl

theorem within_cons (range : Nat × Nat) (ranges : List (Nat × Nat)) (c : Char) :
    within (range :: ranges) c =
      ((range.1 ≤ c.toNat && c.toNat ≤ range.2) || within ranges c) := rfl

end Fixture.Text
