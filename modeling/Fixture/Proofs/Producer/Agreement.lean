import Fixture.Proofs.Producer.Errors

/-!
# Checking and making documents agree

`documents` makes one document after the other, up to the first error. The main statement is
that checking a schema and making documents for it cannot disagree, whatever was drawn before:
a schema has one list of errors, a check reports that list, and a document is made if and only
if the list is empty, the first of the list being what is reported otherwise. So a schema that
passes a check never fails later, and one that does not fails at its first document.
-/

namespace Fixture

namespace Producer

variable {σ : Type} [Source σ]

/-- Make `count` documents one after the other, up to the first error. -/
def documents (producer : Producer σ) (schema : Schema) (count : Nat) :
    Except Halt (Except FieldError (List Document) × Producer σ) :=
  match count with
  | 0 => .ok (.ok [], producer)
  | count + 1 =>
    match producer.document schema with
    | .error halt => .error halt
    | .ok (.error error, producer) => .ok (.error error, producer)
    | .ok (.ok document, producer) =>
      match producer.documents schema count with
      | .error halt => .error halt
      | .ok (.error error, producer) => .ok (.error error, producer)
      | .ok (.ok documents, producer) => .ok (.ok (document :: documents), producer)

@[simp] theorem documents_zero (producer : Producer σ) (schema : Schema) :
    producer.documents schema 0 = .ok (.ok [], producer) := rfl

theorem documents_succ_of_ok {producer later : Producer σ} {schema : Schema}
    {document : Document} (h : producer.document schema = .ok (.ok document, later))
    (count : Nat) :
    producer.documents schema (count + 1) =
      match later.documents schema count with
      | .error halt => .error halt
      | .ok (.error error, producer) => .ok (.error error, producer)
      | .ok (.ok documents, producer) => .ok (.ok (document :: documents), producer) := by
  rw [documents, h]

theorem documents_succ_of_error {producer later : Producer σ} {schema : Schema}
    {error : FieldError} (h : producer.document schema = .ok (.error error, later))
    (count : Nat) :
    producer.documents schema (count + 1) = .ok (.error error, later) := by
  rw [documents, h]

theorem documents_succ_of_halt {producer : Producer σ} {schema : Schema} {halt : Halt}
    (h : producer.document schema = .error halt) (count : Nat) :
    producer.documents schema (count + 1) = .error halt := by
  rw [documents, h]

theorem documents_succ_eq_ok {producer later : Producer σ} {schema : Schema} {count : Nat}
    {documents : List Document}
    (h : producer.documents schema (count + 1) = .ok (.ok documents, later)) :
    ∃ document next rest, documents = document :: rest ∧
      producer.document schema = .ok (.ok document, next) ∧
      next.documents schema count = .ok (.ok rest, later) := by
  rcases hfirst : producer.document schema with halt | ⟨error | document, next⟩
  · rw [documents_succ_of_halt hfirst] at h
    cases h
  · rw [documents_succ_of_error hfirst] at h
    cases h
  · rw [documents_succ_of_ok hfirst] at h
    rcases hrest : next.documents schema count with halt | ⟨error | rest, last⟩
    · simp [hrest] at h
    · simp [hrest] at h
    · simp only [hrest, Except.ok.injEq, Prod.mk.injEq] at h
      obtain ⟨rfl, rfl⟩ := h
      exact ⟨document, next, rest, rfl, rfl, hrest⟩

theorem documents_of_errors_eq_nil {schema : Schema} (hnone : schema.errors = [])
    (producer : Producer σ) (count : Nat) :
    producer.documents schema count = .error .endless ∨
      ∃ documents later, documents.length = count ∧
        (∀ document ∈ documents, document.names = schema.names) ∧
        producer.documents schema count =
          .ok (.ok documents, ⟨later, producer.produced + count⟩) := by
  induction count generalizing producer with
  | zero => exact Or.inr ⟨[], producer.source, rfl, by simp, rfl⟩
  | succ count ih =>
    rcases document_of_errors_eq_nil hnone producer with h | ⟨document, next, hnames, h⟩
    · exact Or.inl (documents_succ_of_halt h count)
    · rw [documents_succ_of_ok h count]
      rcases ih ⟨next, producer.produced + 1⟩ with hrest | ⟨documents, later, hlength, hall, hrest⟩
      · exact Or.inl (by rw [hrest])
      · refine Or.inr ⟨document :: documents, later, by rw [List.length_cons, hlength], ?_, ?_⟩
        · intro other hother
          rcases List.mem_cons.1 hother with rfl | hother
          · exact hnames
          · exact hall other hother
        · rw [hrest, Nat.add_assoc, Nat.add_comm 1 count]

theorem documents_of_errors_eq_cons {schema : Schema} {error : FieldError}
    {rest : List FieldError} (hsome : schema.errors = error :: rest) (producer : Producer σ)
    {count : Nat} (hcount : count ≠ 0) :
    producer.documents schema count = .error .endless ∨
      ∃ later, producer.documents schema count =
        .ok (.error error, ⟨later, producer.produced⟩) := by
  obtain ⟨fewer, rfl⟩ := Nat.exists_eq_succ_of_ne_zero hcount
  rcases document_of_errors_eq_cons hsome producer with h | ⟨later, h⟩
  · exact Or.inl (documents_succ_of_halt h fewer)
  · exact Or.inr ⟨later, documents_succ_of_error h fewer⟩

theorem of_documents_eq_ok {schema : Schema} {producer later : Producer σ} {count : Nat}
    {documents : List Document}
    (h : producer.documents schema count = .ok (.ok documents, later)) :
    documents.length = count ∧ (∀ document ∈ documents, document.names = schema.names) ∧
      later.produced = producer.produced + count := by
  cases herrors : schema.errors with
  | nil =>
    rcases documents_of_errors_eq_nil herrors producer count with
      hmade | ⟨made, last, hlength, hnames, hmade⟩
    · rw [hmade] at h
      cases h
    · rw [hmade, Except.ok.injEq, Prod.mk.injEq, Except.ok.injEq] at h
      rw [← h.1, ← h.2]
      exact ⟨hlength, hnames, rfl⟩
  | cons error rest =>
    cases count with
    | zero =>
      rw [documents_zero, Except.ok.injEq, Prod.mk.injEq, Except.ok.injEq] at h
      rw [← h.1, ← h.2]
      exact ⟨rfl, fun document hmem => absurd hmem List.not_mem_nil, rfl⟩
    | succ count =>
      rcases documents_of_errors_eq_cons herrors producer (Nat.succ_ne_zero count) with
        hmade | ⟨last, hmade⟩
      · rw [hmade] at h
        cases h
      · rw [hmade] at h
        cases h

theorem documents_ne_endless [Steady σ] (producer : Producer σ) (schema : Schema)
    (count : Nat) : producer.documents schema count ≠ .error .endless := by
  induction count generalizing producer with
  | zero => simp
  | succ count ih =>
    rcases hfirst : producer.document schema with halt | ⟨error | document, next⟩
    · have hdocument := producer.document_ne_endless schema
      rw [documents_succ_of_halt hfirst count]
      simpa [hfirst] using hdocument
    · simp [documents_succ_of_error hfirst count]
    · rw [documents_succ_of_ok hfirst count]
      have hrest := ih next
      rcases hdocuments : next.documents schema count with halt | ⟨error | documents, later⟩
      · simpa [hdocuments] using hrest
      · simp
      · simp

end Producer

theorem Schema.check_eq (schema : Schema) :
    schema.check = .error .endless ∨ schema.check = .ok schema.errors := by
  unfold Schema.check
  rcases (Producer.ofSeed 0).check_eq schema with h | ⟨later, h⟩
  · exact Or.inl (by rw [h])
  · exact Or.inr (by rw [h])

theorem Schema.errors_eq_of_check {schema : Schema} {errors : List FieldError}
    (h : schema.check = .ok errors) : schema.errors = errors := by
  rcases schema.check_eq with hcheck | hcheck
  · rw [hcheck] at h
    cases h
  · rw [hcheck] at h
    exact Except.ok.inj h

theorem Schema.check_eq_of_isOk {schema : Schema} (h : schema.check.isOk = true) :
    schema.check = .ok schema.errors := by
  rcases schema.check_eq with hcheck | hcheck
  · rw [hcheck] at h
    cases h
  · exact hcheck

section Agreement

variable {σ : Type} [Source σ]

/-- In every state of the source a check reports the errors of the schema, and a document is
made if and only if there are none, the first of them being reported otherwise. So a checked
schema never fails later, and one that does not pass fails at its first document. A run that
does not come to an end is one in which no word is ever accepted, and from a steady source
there is none. -/
theorem check_and_documents_agree (schema : Schema) :
    (∀ producer : Producer σ, producer.check schema ≠ .error .endless →
      ∃ later, producer.check schema = .ok (schema.errors, ⟨later, producer.produced⟩)) ∧
    (schema.check ≠ .error .endless → schema.check = .ok schema.errors) ∧
    (∀ producer : Producer σ, producer.document schema ≠ .error .endless →
      ∃ result later, producer.document schema = .ok (result, later) ∧
        ((∃ document, result = .ok document) ↔ schema.errors = []) ∧
        ∀ error, result = .error error → schema.errors.head? = some error) ∧
    (schema.check = .ok [] → ∀ (producer : Producer σ) (count : Nat),
      producer.documents schema count ≠ .error .endless →
      ∃ documents later, documents.length = count ∧
        producer.documents schema count = .ok (.ok documents, later)) ∧
    (∀ error rest, schema.check = .ok (error :: rest) →
      ∀ producer : Producer σ, producer.document schema ≠ .error .endless →
        ∃ later, producer.document schema = .ok (.error error, later)) ∧
    (Steady σ → ∀ producer : Producer σ,
      producer.check schema ≠ .error .endless ∧
      producer.document schema ≠ .error .endless ∧
      ∀ count, producer.documents schema count ≠ .error .endless) := by
  refine ⟨?_, ?_, ?_, ?_, ?_, ?_⟩
  · intro producer hends
    exact (producer.check_eq schema).resolve_left hends
  · intro hends
    exact schema.check_eq.resolve_left hends
  · intro producer hends
    cases herrors : schema.errors with
    | nil =>
      obtain ⟨document, later, _, h⟩ :=
        (Producer.document_of_errors_eq_nil herrors producer).resolve_left hends
      exact ⟨_, _, h, by simp, by simp⟩
    | cons error rest =>
      obtain ⟨later, h⟩ :=
        (Producer.document_of_errors_eq_cons herrors producer).resolve_left hends
      exact ⟨_, _, h, by simp, by simp⟩
  · intro hcheck producer count hends
    have hnone := schema.errors_eq_of_check hcheck
    obtain ⟨documents, later, hlength, _, h⟩ :=
      (Producer.documents_of_errors_eq_nil hnone producer count).resolve_left hends
    exact ⟨documents, _, hlength, h⟩
  · intro error rest hcheck producer hends
    have hsome := schema.errors_eq_of_check hcheck
    obtain ⟨later, h⟩ :=
      (Producer.document_of_errors_eq_cons hsome producer).resolve_left hends
    exact ⟨_, h⟩
  · intro _ producer
    exact ⟨producer.check_ne_endless schema, producer.document_ne_endless schema,
      producer.documents_ne_endless schema⟩

/-- Of two bad fields the first is reported by a document, after a draw for the good one. -/
theorem check_and_documents_agree_unknown :
    let schema : Schema := ⟨[("n", "getInt(1,3)"), ("bad", "getFoo()"), ("worse", "nope")]⟩
    let error : FieldError := ⟨"bad", "getFoo()", .unknownGenerator "getFoo"⟩
    let producer : Producer Script := ⟨Script.ofWords [7], 5⟩
    schema.check = .ok schema.errors ∧ schema.errors.length = 2 ∧
      ∃ later, producer.document schema = .ok (.error error, later) := by
  intro schema error producer
  have herrors : schema.errors =
      [error, ⟨"worse", "nope", .malformed (.missingOpening "nope")⟩] := by decide +kernel
  have hisOk : schema.check.isOk = true := by decide +kernel
  have hcheck := schema.check_eq_of_isOk hisOk
  obtain ⟨_, _, _, _, hfails, hsteady⟩ := check_and_documents_agree (σ := Script) schema
  obtain ⟨_, hends, _⟩ := hsteady inferInstance producer
  refine ⟨hcheck, by rw [herrors]; rfl, ?_⟩
  exact hfails error _ (hcheck.trans (congrArg _ herrors)) producer hends

end Agreement

end Fixture
