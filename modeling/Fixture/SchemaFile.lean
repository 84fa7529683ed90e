import Fixture.Folder.Basic
import Fixture.Schema

/-!
# Schemas in files

A schema is loaded from a file, which has to be there, to be a text, and to hold a schema.
-/

namespace Fixture

inductive LoadError where
  | unreadable (cause : FileError)
  | refused (error : SchemaError)
deriving DecidableEq, Repr

def LoadError.message : LoadError → String
  | .unreadable cause => "Failed to read schema file: " ++ cause.message
  | .refused error => error.message

/-- The wording of an error, and after it that of its cause, if it has one. -/
def LoadError.trace : LoadError → String
  | .unreadable cause => (LoadError.unreadable cause).message ++ ": " ++ cause.message
  | .refused (.notJson error) => (SchemaError.notJson error).message ++ ": " ++ error.message
  | .refused error => error.message

def Schema.ofContent (content : ByteArray) : Except LoadError Schema :=
  match String.fromUTF8? content with
  | none => .error (.unreadable .notText)
  | some text =>
    match Schema.ofText text with
    | .error error => .error (.refused error)
    | .ok schema => .ok schema

def Schema.ofFile (folder : Folder) (path : String) : Except LoadError Schema :=
  match folder.read path with
  | .error cause => .error (.unreadable cause)
  | .ok content => Schema.ofContent content

end Fixture
