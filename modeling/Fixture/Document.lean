import Fixture.Entries
import Fixture.Json.Write
import Fixture.Value

/-!
# Documents

A document is a sequence of named values, each added at its end. Names are not compared when
a value is added, so that one may stand twice: looking a name up then finds its first value,
and as a JSON object, where a name stands once, the document has the name at its first place
with its last value.
-/

namespace Fixture

structure Document where
  fields : List (String × Value)
deriving DecidableEq, Repr

namespace Document

def empty : Document := ⟨[]⟩

def push (document : Document) (name : String) (value : Value) : Document :=
  ⟨document.fields ++ [(name, value)]⟩

def get? (document : Document) (name : String) : Option Value :=
  Entries.get? document.fields name

def names (document : Document) : List String :=
  Entries.names document.fields

def size (document : Document) : Nat :=
  document.fields.length

def isEmpty (document : Document) : Bool :=
  document.fields.isEmpty

def members (encoding : Encoding) (document : Document) : Entries Json :=
  Entries.collapse (document.fields.map fun field => (field.1, field.2.toJson encoding))

def toJson (encoding : Encoding) (document : Document) : Json :=
  .object (document.members encoding)

def compactText (encoding : Encoding) (document : Document) : String :=
  Json.compactText (document.toJson encoding)

def indentedText (encoding : Encoding) (document : Document) : String :=
  Json.indentedText (document.toJson encoding)

theorem names_push (document : Document) (name : String) (value : Value) :
    (document.push name value).names = document.names ++ [name] := by
  simp [push, names, Entries.names]

end Document

end Fixture
