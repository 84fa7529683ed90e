import Fixture.Binary64.Basic

/-!
# JSON values

An object keeps its members as they were written, in order and with names that repeat; which
of two members of one name counts is for the reader of the object to say. A number written
with digits alone is a whole number of any size, any other is a double.
-/

namespace Fixture

inductive Json where
  | null
  | bool (b : Bool)
  | int (n : Int)
  | real (x : Binary64)
  | string (s : String)
  | array (items : List Json)
  | object (members : List (String × Json))
deriving Repr

namespace Json

def kind : Json → String
  | .null => "null"
  | .bool _ => "a boolean"
  | .int _ => "a number"
  | .real _ => "a number"
  | .string _ => "a string"
  | .array _ => "an array"
  | .object _ => "an object"

mutual

/-- Whether two values are the same. The items of arrays hold values in turn, so that equality
is decided by hand. -/
def same : Json → Json → Bool
  | .null, .null => true
  | .bool a, .bool b => a = b
  | .int m, .int n => m = n
  | .real x, .real y => x = y
  | .string s, .string t => s = t
  | .array items, .array others => sameItems items others
  | .object members, .object others => sameMembers members others
  | _, _ => false

def sameItems : List Json → List Json → Bool
  | [], [] => true
  | item :: items, other :: others => same item other && sameItems items others
  | _, _ => false

def sameMembers : List (String × Json) → List (String × Json) → Bool
  | [], [] => true
  | (name, value) :: members, (other, found) :: others =>
    decide (name = other) && same value found && sameMembers members others
  | _, _ => false

end

mutual

theorem same_iff (a b : Json) : same a b = true ↔ a = b := by
  cases a with
  | array items => cases b <;> simp [same, sameItems_iff items]
  | object members => cases b <;> simp [same, sameMembers_iff members]
  | _ => cases b <;> simp [same]

theorem sameItems_iff (items others : List Json) :
    sameItems items others = true ↔ items = others := by
  cases items with
  | nil => cases others <;> simp [sameItems]
  | cons item items => cases others <;> simp [sameItems, same_iff item, sameItems_iff items]

theorem sameMembers_iff (members others : List (String × Json)) :
    sameMembers members others = true ↔ members = others := by
  cases members with
  | nil => cases others <;> simp [sameMembers]
  | cons member members =>
    obtain ⟨name, value⟩ := member
    cases others <;> simp [sameMembers, same_iff value, sameMembers_iff members, Prod.ext_iff]

end

instance : DecidableEq Json :=
  fun a b => decidable_of_iff _ (same_iff a b)

end Json

end Fixture
