import Fixture.Entries
import Fixture.Json.Read

/-!
# Schemas

A schema binds field names, none of which is empty, to the texts of invocations, in order.
As JSON it is an object of strings. The whole text is read before any member is looked at;
of two members of one name the first gives the place and the last the value; then the first
member with an empty name or a value that is no string is the one that is wrong, and of one
member the name is looked at first. What the invocations say is not looked at here.
-/

namespace Fixture

structure Schema where
  fields : Entries String
deriving DecidableEq, Repr

inductive SchemaError where
  | notJson (error : Json.SyntaxError)
  | notAnObject (kind : String)
  | notAnInvocation (field kind : String)
  | emptyFieldName
deriving DecidableEq, Repr

def SchemaError.message : SchemaError → String
  | .notJson error => "Failed to parse JSON: " ++ error.message
  | .notAnObject kind => "Schema must be a JSON object, found " ++ kind
  | .notAnInvocation field kind =>
    "Field '" ++ field ++ "' must map to an invocation string, found " ++ kind
  | .emptyFieldName => "Field names must not be empty"

namespace Schema

def empty : Schema := ⟨[]⟩

/-- Bind a field name to an invocation, in its place if the name is bound already. -/
def add (schema : Schema) (name invocation : String) : Except SchemaError Schema :=
  if name.isEmpty then .error .emptyFieldName else .ok ⟨schema.fields.put name invocation⟩

def ofPairs (pairs : List (String × String)) : Except SchemaError Schema :=
  pairs.foldlM (fun schema pair => schema.add pair.1 pair.2) empty

def get? (schema : Schema) (name : String) : Option String :=
  Entries.get? schema.fields name

def names (schema : Schema) : List String :=
  Entries.names schema.fields

def size (schema : Schema) : Nat :=
  schema.fields.length

def isEmpty (schema : Schema) : Bool :=
  schema.fields.isEmpty

/-- The fields that the members of a JSON object give, each name standing once. -/
def readFields : Entries Json → Except SchemaError (Entries String)
  | [] => .ok []
  | (name, value) :: rest =>
    if name.isEmpty then .error .emptyFieldName
    else match value with
      | .string invocation => (readFields rest).map ((name, invocation) :: ·)
      | value => .error (.notAnInvocation name value.kind)

def ofJson : Json → Except SchemaError Schema
  | .object members => (readFields (Entries.collapse members)).map Schema.mk
  | value => .error (.notAnObject value.kind)

def ofText (text : String) : Except SchemaError Schema :=
  match Json.read text with
  | .error error => .error (.notJson error)
  | .ok value => ofJson value

end Schema

end Fixture
