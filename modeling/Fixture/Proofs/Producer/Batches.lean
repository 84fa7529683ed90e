import Fixture.Batch
import Fixture.Proofs.Producer.Agreement
import Fixture.Random.Script

/-!
# Batches repeat documents

A batch that is asked again and again makes documents one after the other, as many as it was
made for, and ends with the first error. `Producer.attempts` says this without a batch: it
makes documents up to a limit and keeps every result, an error being the last. The main
statement is that asking a batch gives these results, then nothing any more, and leaves the
producer where they leave it, however often it is asked.
-/

namespace Fixture

namespace Producer

variable {σ : Type} [Source σ]

/-- Make documents one after the other, at most `limit` of them, up to and including the
first error. -/
def attempts (producer : Producer σ) (schema : Schema) (limit : Nat) :
    Except Halt (List (Except FieldError Document) × Producer σ) :=
  match limit with
  | 0 => .ok ([], producer)
  | limit + 1 =>
    match producer.document schema with
    | .error halt => .error halt
    | .ok (.error error, producer) => .ok ([.error error], producer)
    | .ok (.ok document, producer) =>
      match producer.attempts schema limit with
      | .error halt => .error halt
      | .ok (results, producer) => .ok (.ok document :: results, producer)

variable {producer later : Producer σ} {schema : Schema}

@[simp] theorem attempts_zero : producer.attempts schema 0 = .ok ([], producer) := rfl

theorem attempts_succ_of_halt {halt : Halt} (h : producer.document schema = .error halt)
    (limit : Nat) : producer.attempts schema (limit + 1) = .error halt := by
  rw [attempts, h]

theorem attempts_succ_of_error {error : FieldError}
    (h : producer.document schema = .ok (.error error, later)) (limit : Nat) :
    producer.attempts schema (limit + 1) = .ok ([.error error], later) := by
  rw [attempts, h]

theorem attempts_succ_of_ok {document : Document}
    (h : producer.document schema = .ok (.ok document, later)) (limit : Nat) :
    producer.attempts schema (limit + 1) =
      match later.attempts schema limit with
      | .error halt => .error halt
      | .ok (results, last) => .ok (.ok document :: results, last) := by
  rw [attempts, h]

theorem attempts_of_errors_eq_nil (hnone : schema.errors = []) (producer : Producer σ)
    (limit : Nat) :
    producer.attempts schema limit = .error .endless ∨
      ∃ documents later, documents.length = limit ∧
        producer.documents schema limit = .ok (.ok documents, later) ∧
        producer.attempts schema limit = .ok (documents.map .ok, later) := by
  induction limit generalizing producer with
  | zero => exact Or.inr ⟨[], producer, rfl, rfl, rfl⟩
  | succ limit ih =>
    rcases document_of_errors_eq_nil hnone producer with h | ⟨document, source, _, h⟩
    · exact Or.inl (attempts_succ_of_halt h limit)
    · rw [attempts_succ_of_ok h, documents_succ_of_ok h]
      rcases ih ⟨source, producer.produced + 1⟩ with
        hrest | ⟨documents, later, hlength, hmade, hrest⟩
      · exact Or.inl (by rw [hrest])
      · refine Or.inr ⟨document :: documents, later, ?_, ?_, ?_⟩
        · rw [List.length_cons, hlength]
        · rw [hmade]
        · rw [hrest, List.map_cons]

theorem documents_or_error_of_attempts {limit : Nat}
    {results : List (Except FieldError Document)}
    (h : producer.attempts schema limit = .ok (results, later)) :
    (∃ documents, documents.length = limit ∧ results = documents.map .ok ∧
        producer.documents schema limit = .ok (.ok documents, later)) ∨
      ∃ error, limit ≠ 0 ∧ schema.errors.head? = some error ∧ results = [.error error] ∧
        producer.document schema = .ok (.error error, later) := by
  cases limit with
  | zero =>
    rw [attempts_zero, Except.ok.injEq, Prod.mk.injEq] at h
    obtain ⟨rfl, rfl⟩ := h
    exact Or.inl ⟨[], rfl, rfl, rfl⟩
  | succ limit =>
    cases herrors : schema.errors with
    | nil =>
      rcases attempts_of_errors_eq_nil herrors producer (limit + 1) with
        hmade | ⟨documents, last, hlength, hdocuments, hmade⟩
      · rw [hmade] at h
        cases h
      · rw [hmade, Except.ok.injEq, Prod.mk.injEq] at h
        obtain ⟨rfl, rfl⟩ := h
        exact Or.inl ⟨documents, hlength, rfl, hdocuments⟩
    | cons error rest =>
      rcases document_of_errors_eq_cons herrors producer with hfirst | ⟨source, hfirst⟩
      · rw [attempts_succ_of_halt hfirst] at h
        cases h
      · rw [attempts_succ_of_error hfirst, Except.ok.injEq, Prod.mk.injEq] at h
        obtain ⟨rfl, rfl⟩ := h
        exact Or.inr ⟨error, Nat.succ_ne_zero limit, rfl, rfl, hfirst⟩

end Producer

namespace Batch

variable {σ : Type} [Source σ]

def ask (batch : Batch) (producer : Producer σ) (calls : Nat) :
    Except Halt (List (Option (Except FieldError Document)) × Batch × Producer σ) :=
  match calls with
  | 0 => .ok ([], batch, producer)
  | calls + 1 =>
    match batch.next producer with
    | .error halt => .error halt
    | .ok (item, batch, producer) =>
      match batch.ask producer calls with
      | .error halt => .error halt
      | .ok (items, last) => .ok (item :: items, last)

variable {schema : Schema} {remaining : Nat} {producer later : Producer σ}

@[simp] theorem ask_zero (batch : Batch) : batch.ask producer 0 = .ok ([], batch, producer) :=
  rfl

theorem ask_succ_of_next {batch rest : Batch} {item : Option (Except FieldError Document)}
    (h : batch.next producer = .ok (item, rest, later)) (calls : Nat) :
    batch.ask producer (calls + 1) =
      match rest.ask later calls with
      | .error halt => .error halt
      | .ok (items, last) => .ok (item :: items, last) := by
  rw [ask, h]

theorem ask_succ_of_halt {batch : Batch} {halt : Halt}
    (h : batch.next producer = .error halt) (calls : Nat) :
    batch.ask producer (calls + 1) = .error halt := by
  rw [ask, h]

/-- The calls after some others go on from where these leave the batch and the producer. -/
theorem ask_add (batch : Batch) (producer : Producer σ) (calls further : Nat) :
    batch.ask producer (calls + further) =
      match batch.ask producer calls with
      | .error halt => .error halt
      | .ok (items, rest, later) =>
        match rest.ask later further with
        | .error halt => .error halt
        | .ok (more, last) => .ok (items ++ more, last) := by
  induction calls generalizing batch producer with
  | zero =>
    rw [Nat.zero_add, ask_zero]
    simp only
    rcases batch.ask producer further with halt | ⟨more, last⟩ <;> rfl
  | succ calls ih =>
    rw [Nat.add_right_comm]
    rcases hnext : batch.next producer with halt | ⟨item, rest, later⟩
    · rw [ask_succ_of_halt hnext, ask_succ_of_halt hnext]
    · rw [ask_succ_of_next hnext, ask_succ_of_next hnext, ih]
      rcases rest.ask later calls with halt | ⟨items, batch, producer⟩
      · rfl
      · simp only
        rcases batch.ask producer further with halt | ⟨more, last⟩ <;> rfl

theorem next_of_zero (producer : Producer σ) :
    (Batch.mk schema 0).next producer = .ok (none, ⟨schema, 0⟩, producer) := rfl

theorem next_of_halt {halt : Halt} (h : producer.document schema = .error halt) :
    (Batch.mk schema (remaining + 1)).next producer = .error halt := by
  rw [next]
  simp only [h]

theorem next_of_error {error : FieldError}
    (h : producer.document schema = .ok (.error error, later)) :
    (Batch.mk schema (remaining + 1)).next producer =
      .ok (some (.error error), ⟨schema, 0⟩, later) := by
  rw [next]
  simp only [h]

theorem next_of_ok {document : Document}
    (h : producer.document schema = .ok (.ok document, later)) :
    (Batch.mk schema (remaining + 1)).next producer =
      .ok (some (.ok document), ⟨schema, remaining⟩, later) := by
  rw [next]
  simp only [h]

theorem ask_of_zero (producer : Producer σ) (calls : Nat) :
    (Batch.mk schema 0).ask producer calls =
      .ok (List.replicate calls none, ⟨schema, 0⟩, producer) := by
  induction calls with
  | zero => rfl
  | succ calls ih => rw [ask_succ_of_next (next_of_zero producer), ih, List.replicate_succ]

def after (batch : Batch) (results : List (Except FieldError Document)) : Batch :=
  ⟨batch.schema, if results.all Except.isOk then batch.remaining - results.length else 0⟩

theorem after_ok_cons (document : Document) (results : List (Except FieldError Document)) :
    (Batch.mk schema (remaining + 1)).after (.ok document :: results) =
      (Batch.mk schema remaining).after results := by
  rw [after, after, List.all_cons, List.length_cons, Nat.add_sub_add_right]
  rfl

theorem after_documents (batch : Batch) (documents : List Document) :
    batch.after (documents.map .ok) = ⟨batch.schema, batch.remaining - documents.length⟩ := by
  rw [after, List.all_map, List.length_map, if_pos]
  exact List.all_eq_true.2 fun document _ => rfl

/-- A batch gives the results of the attempts it still has, and then nothing. -/
theorem ask_eq_attempts (producer : Producer σ) (calls : Nat) :
    (Batch.mk schema remaining).ask producer calls =
      match producer.attempts schema (min calls remaining) with
      | .error halt => .error halt
      | .ok (results, later) =>
        .ok (results.map some ++ List.replicate (calls - results.length) none,
          (Batch.mk schema remaining).after results, later) := by
  -- Each call takes one document off the batch, so both numbers go down together.
  induction calls generalizing remaining producer with
  | zero => rw [Nat.zero_min, Producer.attempts_zero]; rfl
  | succ calls ih =>
    cases remaining with
    | zero => rw [Nat.min_zero, Producer.attempts_zero, ask_of_zero]; rfl
    | succ remaining =>
      rw [Nat.add_min_add_right]
      rcases hfirst : producer.document schema with halt | ⟨error | document, next⟩
      · rw [ask_succ_of_halt (next_of_halt hfirst), Producer.attempts_succ_of_halt hfirst]
      · rw [ask_succ_of_next (next_of_error hfirst), ask_of_zero,
          Producer.attempts_succ_of_error hfirst]
        rfl
      · rw [ask_succ_of_next (next_of_ok hfirst), ih, Producer.attempts_succ_of_ok hfirst]
        rcases next.attempts schema (min calls remaining) with halt | ⟨results, later⟩
        · rfl
        · simp only [List.map_cons, List.cons_append, List.length_cons,
            Nat.add_sub_add_right, after_ok_cons]

section Ask

variable {calls : Nat} {items : List (Option (Except FieldError Document))} {rest : Batch}

theorem exists_attempts_of_ask
    (h : (Batch.mk schema remaining).ask producer calls = .ok (items, rest, later)) :
    ∃ results, producer.attempts schema (min calls remaining) = .ok (results, later) ∧
      items = results.map some ++ List.replicate (calls - results.length) none ∧
      rest = (Batch.mk schema remaining).after results := by
  rw [ask_eq_attempts] at h
  rcases hattempts : producer.attempts schema (min calls remaining) with
    halt | ⟨results, last⟩
  · rw [hattempts] at h
    cases h
  · rw [hattempts, Except.ok.injEq, Prod.mk.injEq, Prod.mk.injEq] at h
    obtain ⟨rfl, rfl, rfl⟩ := h
    exact ⟨results, rfl, rfl, rfl⟩

theorem countP_isSome_items (results : List (Except FieldError Document)) (fewer : Nat) :
    (results.map some ++ List.replicate fewer none).countP Option.isSome =
      results.length := by
  rw [List.countP_append, List.countP_map, List.countP_replicate]
  simp

theorem countP_ask_le
    (h : (Batch.mk schema remaining).ask producer calls = .ok (items, rest, later)) :
    items.countP Option.isSome ≤ remaining := by
  obtain ⟨results, hattempts, rfl, _⟩ := exists_attempts_of_ask h
  rw [countP_isSome_items]
  rcases Producer.documents_or_error_of_attempts hattempts with
    ⟨documents, hlength, rfl, _⟩ | ⟨error, hlimit, _, rfl, _⟩
  · rw [List.length_map, hlength]
    exact Nat.min_le_right calls remaining
  · exact Nat.le_trans (Nat.pos_of_ne_zero hlimit) (Nat.min_le_right calls remaining)

theorem documents_of_ask (hnone : schema.errors = [])
    (h : (Batch.mk schema remaining).ask producer calls = .ok (items, rest, later)) :
    ∃ documents, documents.length = min calls remaining ∧
      producer.documents schema (min calls remaining) = .ok (.ok documents, later) ∧
      items = (documents.map .ok).map some ++ List.replicate (calls - documents.length) none ∧
      rest = ⟨schema, remaining - documents.length⟩ := by
  obtain ⟨results, hattempts, rfl, rfl⟩ := exists_attempts_of_ask h
  rcases Producer.documents_or_error_of_attempts hattempts with
    ⟨documents, hlength, rfl, hmade⟩ | ⟨error, _, hhead, _⟩
  · exact ⟨documents, hlength, hmade, by rw [List.length_map], after_documents _ _⟩
  · rw [hnone] at hhead
    cases hhead

theorem countP_ask_eq (hnone : schema.errors = []) (hcalls : remaining ≤ calls)
    (h : (Batch.mk schema remaining).ask producer calls = .ok (items, rest, later)) :
    items.countP Option.isSome = remaining := by
  obtain ⟨documents, hlength, _, rfl, _⟩ := documents_of_ask hnone h
  rw [countP_isSome_items, List.length_map, hlength, Nat.min_eq_right hcalls]

end Ask

theorem exists_next_eq [Steady σ] (batch : Batch) (producer : Producer σ) :
    ∃ item rest later, batch.next producer = .ok (item, rest, later) := by
  obtain ⟨schema, remaining⟩ := batch
  cases remaining with
  | zero => exact ⟨_, _, _, next_of_zero producer⟩
  | succ remaining =>
    rcases hfirst : producer.document schema with halt | ⟨error | document, later⟩
    · exact absurd hfirst (producer.document_ne_halt schema halt)
    · exact ⟨_, _, _, next_of_error hfirst⟩
    · exact ⟨_, _, _, next_of_ok hfirst⟩

theorem exists_ask_eq [Steady σ] (batch : Batch) (producer : Producer σ) (calls : Nat) :
    ∃ items rest later, batch.ask producer calls = .ok (items, rest, later) := by
  induction calls generalizing batch producer with
  | zero => exact ⟨_, _, _, ask_zero batch⟩
  | succ calls ih =>
    obtain ⟨item, rest, later, hnext⟩ := exists_next_eq batch producer
    obtain ⟨items, last, final, hrest⟩ := ih rest later
    exact ⟨item :: items, last, final, by rw [ask_succ_of_next hnext, hrest]⟩

end Batch

section Repetition

variable {σ : Type} [Source σ]

/-- However often a batch is asked it gives what making its documents one after the other
gives, up to and including the first error, and nothing after that, and it leaves the producer
where they leave it. Over all calls it gives every document or one error alone. At every point
the upper bound that it states holds for whatever further calls give, and without errors it is
reached. So without errors a batch may be left after some documents and a new one begun for the
others. From a steady source the calls come to an end. -/
theorem batches_repeat_documents (schema : Schema) (count : Nat) (producer : Producer σ) :
    (∀ calls, (Batch.mk schema count).ask producer calls =
      match producer.attempts schema (min calls count) with
      | .error halt => .error halt
      | .ok (results, later) =>
        .ok (results.map some ++ List.replicate (calls - results.length) none,
          ⟨schema, if results.all Except.isOk then count - results.length else 0⟩, later)) ∧
    (∀ calls items rest later, count ≤ calls →
      (Batch.mk schema count).ask producer calls = .ok (items, rest, later) →
      (∃ documents : List Document, documents.length = count ∧
        producer.documents schema count = .ok (.ok documents, later) ∧
        items = (documents.map .ok).map some ++ List.replicate (calls - count) none) ∨
      ∃ error, count ≠ 0 ∧ producer.document schema = .ok (.error error, later) ∧
        items = some (.error error) :: List.replicate (calls - 1) none) ∧
    (∀ calls items rest later,
      (Batch.mk schema count).ask producer calls = .ok (items, rest, later) →
      ∀ further more last, rest.ask later further = .ok (more, last) →
        more.countP Option.isSome ≤ rest.bounds.2 ∧
        (schema.errors = [] → rest.bounds.2 ≤ further →
          more.countP Option.isSome = rest.bounds.2)) ∧
    (schema.errors = [] → ∀ calls ≤ count, ∀ further,
      (Batch.mk schema count).ask producer (calls + further) =
        match (Batch.mk schema count).ask producer calls with
        | .error halt => .error halt
        | .ok (items, _, later) =>
          match (Batch.mk schema (count - calls)).ask later further with
          | .error halt => .error halt
          | .ok (more, last) => .ok (items ++ more, last)) ∧
    (Steady σ → ∀ calls, ∃ items rest later,
      (Batch.mk schema count).ask producer calls = .ok (items, rest, later)) := by
  refine ⟨fun calls => Batch.ask_eq_attempts producer calls, ?_, ?_, ?_, ?_⟩
  · intro calls items rest later hcalls h
    obtain ⟨results, hattempts, rfl, _⟩ := Batch.exists_attempts_of_ask h
    rw [Nat.min_eq_right hcalls] at hattempts
    rcases Producer.documents_or_error_of_attempts hattempts with
      ⟨documents, hlength, rfl, hmade⟩ | ⟨error, hcount, _, rfl, hfails⟩
    · exact Or.inl ⟨documents, hlength, hmade, by rw [List.length_map, hlength]⟩
    · exact Or.inr ⟨error, hcount, hfails, rfl⟩
  · intro calls items rest later h further more last hmore
    obtain ⟨results, _, _, rfl⟩ := Batch.exists_attempts_of_ask h
    refine ⟨Batch.countP_ask_le hmore, ?_⟩
    intro hnone hfurther
    exact Batch.countP_ask_eq hnone hfurther hmore
  · intro hnone calls hcalls further
    rw [Batch.ask_add]
    rcases hask : (Batch.mk schema count).ask producer calls with halt | ⟨items, rest, later⟩
    · rfl
    · obtain ⟨documents, hlength, _, _, rfl⟩ := Batch.documents_of_ask hnone hask
      rw [hlength, Nat.min_eq_left hcalls]
  · intro _ calls
    exact Batch.exists_ask_eq _ producer calls

/-- A batch of three is left after two documents, and a batch of one gives the third. -/
theorem batches_repeat_documents_resumed :
    let schema : Schema := ⟨[("n", "getInt(1,3)")]⟩
    let producer : Producer Script := ⟨Script.ofWords [5, 9223372036854775808], 0⟩
    schema.errors = [] ∧
      ∃ items middle more rest last,
        (Batch.mk schema 3).ask producer 2 = .ok (items, ⟨schema, 1⟩, middle) ∧
        (Batch.mk schema 1).ask middle 2 = .ok (more, rest, last) ∧
        more.countP Option.isSome = 1 ∧
        (Batch.mk schema 3).ask producer 4 = .ok (items ++ more, rest, last) ∧
        ∃ documents : List Document, documents.length = 3 ∧
          producer.documents schema 3 = .ok (.ok documents, last) ∧
          items ++ more = (documents.map .ok).map some ++ [none] := by
  intro schema producer
  obtain ⟨_, hwhole, hbounds, hresumed, hends⟩ := batches_repeat_documents schema 3 producer
  have hnone : schema.errors = [] := by decide +kernel
  obtain ⟨items, left, middle, htwo⟩ := hends inferInstance 2
  obtain ⟨made, hlength, _, _, hleft⟩ := Batch.documents_of_ask hnone htwo
  obtain rfl : left = ⟨schema, 1⟩ := by rw [hleft, hlength]; rfl
  obtain ⟨more, rest, last, hmore⟩ := Batch.exists_ask_eq ⟨schema, 1⟩ middle 2
  obtain ⟨_, hcount⟩ := hbounds 2 items _ _ htwo 2 more _ hmore
  have hfour : (Batch.mk schema 3).ask producer 4 = .ok (items ++ more, rest, last) := by
    have h := hresumed hnone 2 (by decide) 2
    rw [htwo] at h
    simp only [hmore] at h
    exact h
  refine ⟨hnone, items, middle, more, rest, last, htwo, hmore,
    hcount hnone (by decide), hfour, ?_⟩
  rcases hwhole 4 _ _ _ (by decide) hfour with h | ⟨error, _, hfails, _⟩
  · exact h
  · have hfirst : ∃ document later, producer.document schema = .ok (.ok document, later) :=
      ⟨_, _, rfl⟩
    obtain ⟨document, later, hfirst⟩ := hfirst
    rw [hfirst] at hfails
    cases hfails

end Repetition

end Fixture
