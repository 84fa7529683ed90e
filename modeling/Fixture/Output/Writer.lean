import Fixture.Output.Sink
import Fixture.Producer

/-!
# Writing documents

A writer makes documents and writes each on a line of its own. A single document may be
written indented; more than one are always compact, so that each stays on one line. Writing
ends at the first field error, and when the sink has no more room; the document that did not
fit has been made and counts for the producer.
-/

namespace Fixture

inductive WriteError where
  | noRoom
  | field (error : FieldError)
deriving DecidableEq, Repr

def WriteError.message : WriteError → String
  | .noRoom => "IO error: failed to write whole buffer: failed to write whole buffer"
  | .field error => error.message

structure Report where
  documents : Nat
  bytes : Nat
deriving DecidableEq, Repr

structure Writer (σ : Type) where
  producer : Producer σ
  encoding : Encoding
  pretty : Bool

namespace Writer

variable {σ : Type} [Source σ]

/-- The text of a document among `count` documents, with the line feed that ends it. -/
def lineText (encoding : Encoding) (pretty : Bool) (count : Nat) (document : Document) :
    String :=
  (if pretty && count = 1 then document.indentedText encoding
    else document.compactText encoding) ++ "\n"

def writeLines (line : Document → String) (schema : Schema) :
    Nat → Producer σ → Sink → Report →
      Except Halt (Except WriteError Report × Sink × Producer σ)
  | 0, producer, sink, report => .ok (.ok report, sink, producer)
  | remaining + 1, producer, sink, report =>
    match producer.document schema with
    | .error halt => .error halt
    | .ok (.error error, producer) => .ok (.error (.field error), sink, producer)
    | .ok (.ok document, producer) =>
      let bytes := (line document).toUTF8
      match sink.write bytes with
      | (false, sink) => .ok (.error .noRoom, sink, producer)
      | (true, sink) =>
        writeLines line schema remaining producer sink
          ⟨report.documents + 1, report.bytes + bytes.size⟩

def write (writer : Writer σ) (schema : Schema) (count : Nat) (sink : Sink) :
    Except Halt (Except WriteError Report × Sink × Writer σ) :=
  match writeLines (lineText writer.encoding writer.pretty count) schema count
      writer.producer sink ⟨0, 0⟩ with
  | .error halt => .error halt
  | .ok (result, sink, producer) => .ok (result, sink, { writer with producer })

end Writer

end Fixture
