import Fixture.Document
import Fixture.Random.ChaCha
import Fixture.Recipe
import Fixture.Schema

/-!
# Producing documents

A producer makes documents from a source and counts those it made. A document is made field
by field in the order of the schema. The first field whose invocation fails ends it: the draws
for the fields before stay made, and the document does not count. Checking a schema invokes its
fields in the same way, collects all errors instead of ending at the first, and counts nothing.
-/

namespace Fixture

structure FieldError where
  field : String
  invocation : String
  cause : InvocationError
deriving DecidableEq, Repr

def FieldError.display (error : FieldError) : String :=
  "field '" ++ error.field ++ "' (invocation '" ++ error.invocation ++ "')"

def FieldError.message (error : FieldError) : String :=
  error.display ++ ": " ++ error.cause.message

structure Producer (σ : Type) where
  source : σ
  produced : Nat

namespace Producer

variable {σ : Type} [Source σ]

def ofSource (source : σ) : Producer σ :=
  ⟨source, 0⟩

def ofSeed (seed : UInt64) : Producer ChaCha :=
  ofSource (ChaCha.ofSeed seed)

/-- Make a value for each field, up to the first error. -/
def fill : Entries String → σ → Except Halt (Except FieldError (List (String × Value)) × σ)
  | [], source => .ok (.ok [], source)
  | (name, invocation) :: rest, source =>
    match Recipe.invokeText invocation source with
    | .error halt => .error halt
    | .ok (.error cause, source) => .ok (.error ⟨name, invocation, cause⟩, source)
    | .ok (.ok value, source) =>
      match fill rest source with
      | .error halt => .error halt
      | .ok (.error error, source) => .ok (.error error, source)
      | .ok (.ok values, source) => .ok (.ok ((name, value) :: values), source)

@[simp] theorem fill_nil (source : σ) : fill [] source = .ok (.ok [], source) := rfl

/-- The fields of a list come after those of another that are filled first. -/
theorem fill_append (first second : Entries String) (source : σ) :
    fill (first ++ second) source =
      match fill first source with
      | .error halt => .error halt
      | .ok (.error error, source) => .ok (.error error, source)
      | .ok (.ok values, source) =>
        match fill second source with
        | .error halt => .error halt
        | .ok (.error error, source) => .ok (.error error, source)
        | .ok (.ok more, source) => .ok (.ok (values ++ more), source) := by
  induction first generalizing source with
  | nil =>
    simp only [List.nil_append, fill_nil]
    rcases fill second source with halt | ⟨error | values, source⟩ <;> rfl
  | cons field first ih =>
    rw [List.cons_append, fill, fill]
    rcases Recipe.invokeText field.2 source with halt | ⟨cause | value, source⟩
    · rfl
    · rfl
    · simp only [ih]
      rcases fill first source with halt | ⟨error | values, source⟩
      · rfl
      · rfl
      · simp only
        rcases fill second source with halt | ⟨error | more, source⟩ <;> rfl

/-- Make a value for each good field, and collect the errors of the others. -/
def survey : Entries String → σ → Except Halt (List FieldError × σ)
  | [], source => .ok ([], source)
  | (name, invocation) :: rest, source =>
    match Recipe.invokeText invocation source with
    | .error halt => .error halt
    | .ok (.error cause, source) =>
      match survey rest source with
      | .error halt => .error halt
      | .ok (errors, source) => .ok (⟨name, invocation, cause⟩ :: errors, source)
    | .ok (.ok _, source) => survey rest source

def document (producer : Producer σ) (schema : Schema) :
    Except Halt (Except FieldError Document × Producer σ) :=
  match fill schema.fields producer.source with
  | .error halt => .error halt
  | .ok (.error error, source) => .ok (.error error, ⟨source, producer.produced⟩)
  | .ok (.ok fields, source) => .ok (.ok ⟨fields⟩, ⟨source, producer.produced + 1⟩)

def json (producer : Producer σ) (schema : Schema) (encoding : Encoding) :
    Except Halt (Except FieldError String × Producer σ) :=
  match producer.document schema with
  | .error halt => .error halt
  | .ok (.error error, producer) => .ok (.error error, producer)
  | .ok (.ok document, producer) =>
    .ok (.ok (document.compactText encoding), producer)

def check (producer : Producer σ) (schema : Schema) :
    Except Halt (List FieldError × Producer σ) :=
  match survey schema.fields producer.source with
  | .error halt => .error halt
  | .ok (errors, source) => .ok (errors, ⟨source, producer.produced⟩)

end Producer

/-- Check a schema with a producer of its own, of seed zero. -/
def Schema.check (schema : Schema) : Except Halt (List FieldError) :=
  match (Producer.ofSeed 0).check schema with
  | .error halt => .error halt
  | .ok (errors, _) => .ok errors

end Fixture
