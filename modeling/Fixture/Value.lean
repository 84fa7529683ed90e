import Fixture.Binary64.Arithmetic
import Fixture.Decimal.Layout
import Fixture.Json.Basic
import Fixture.Text.Integer

/-!
# Values

A generated value is a whole number in a signed word, a double, or a text. As text a number
is written in plain decimals and a text is itself. As JSON it is written in one of two
encodings: the text encoding makes every value a string, the typed encoding makes numbers
JSON numbers, except for a double that has no exact value, which stays a string.
-/

namespace Fixture

inductive Value where
  | int (n : Int64)
  | double (x : Binary64)
  | text (s : String)
deriving DecidableEq, Repr

inductive Encoding where
  | text
  | typed
deriving DecidableEq, Repr, Inhabited

namespace Value

def display : Value → String
  | .int n => String.ofList (Text.decimal n.toInt)
  | .double x => String.ofList (Decimal.plain.text x)
  | .text s => s

def toInt? : Value → Option Int64
  | .int n => some n
  | _ => none

/-- The value as a double: a whole number is rounded to the nearest one. -/
def toDouble? : Value → Option Binary64
  | .int n => some (Binary64.ofInt n.toInt)
  | .double x => some x
  | .text _ => none

def toText? : Value → Option String
  | .text s => some s
  | _ => none

def toJson (encoding : Encoding) (value : Value) : Json :=
  match encoding, value with
  | .text, value => .string value.display
  | .typed, .int n => .int n.toInt
  | .typed, .double x => if x.isFinite then .real x else .string (Value.double x).display
  | .typed, .text s => .string s

theorem toJson_text (value : Value) : value.toJson .text = .string value.display := rfl

end Value

end Fixture
