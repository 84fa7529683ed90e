import Fixture.Folder.Replace
import Fixture.Output.Writer
import Fixture.Text.Quoted

/-!
# Writing documents to a file

Documents that go to a file go to a draft first. The draft is made before any document, so
that a directory that is not there costs nothing, and it takes the place of the file after
the last one, so that the file has all documents or is left as it was.
-/

namespace Fixture

/-- What keeps documents from becoming a file: there is no draft, the draft cannot be moved,
or a field has no value. -/
inductive PathError where
  | noDraft (path : String) (cause : FileError)
  | notPlaced (cause : FileError)
  | writing (error : WriteError)
deriving DecidableEq, Repr

def PathError.message : PathError → String
  | .noDraft path cause =>
    let text := cause.message ++ " at path " ++ Text.quoted path
    "IO error: " ++ text ++ ": " ++ text
  | .notPlaced cause => "IO error: " ++ cause.message ++ ": " ++ cause.message
  | .writing error => error.message

namespace Writer

variable {σ : Type} [Source σ]

/-- Make `count` documents and put them into the file that a path gives, replacing it. -/
def writeToPath (writer : Writer σ) (schema : Schema) (count : Nat) (folder : Folder)
    (path : String) : Except Halt (Except PathError Report × Folder × Writer σ) :=
  match folder.makeDraft path with
  | .error cause =>
    let draft := Folder.draftPath folder.homePath path folder.freshName
    .ok (.error (.noDraft draft cause), folder, writer)
  | .ok (draft, prepared) =>
    match writer.write schema count Sink.unlimited with
    | .error halt => .error halt
    | .ok (.error error, _, writer) =>
      .ok (.error (.writing error), prepared.dropDraft draft, writer)
    | .ok (.ok report, sink, writer) =>
      match prepared.placeDraft draft sink.received path with
      | .error cause => .ok (.error (.notPlaced cause), prepared.dropDraft draft, writer)
      | .ok replaced => .ok (.ok report, replaced, writer)

end Writer

end Fixture
