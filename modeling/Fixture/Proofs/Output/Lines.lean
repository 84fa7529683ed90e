import Fixture.Output.Writer
import Fixture.Proofs.Producer.Agreement

/-!
# All lines or none

Writing makes the documents that `Producer.documents` makes, and puts the line of each into
the sink. Since a schema that has errors fails at its first document, no field error comes
after a line was written: a sink that never fails receives all lines or nothing at all.
-/

namespace Fixture

theorem Sink.received_of_write {sink after : Sink} {bytes : ByteArray}
    (h : sink.write bytes = (true, after)) : after.received = sink.received ++ bytes := by
  unfold Sink.write at h
  split at h
  · rw [← (Prod.mk.inj h).2]
  · split at h
    · rw [← (Prod.mk.inj h).2]
    · exact absurd (Prod.mk.inj h).1 Bool.false_ne_true

namespace Writer

variable {σ : Type} [Source σ] {line : Document → String} {schema : Schema}

def linesText (line : Document → String) (documents : List Document) : String :=
  String.join (documents.map line)

@[simp] theorem linesText_nil : linesText line [] = "" := rfl

theorem linesText_cons (document : Document) (documents : List Document) :
    linesText line (document :: documents) = line document ++ linesText line documents := by
  rw [linesText, List.map_cons, String.join_cons, linesText]

theorem toUTF8_linesText_cons (document : Document) (documents : List Document) :
    (linesText line (document :: documents)).toUTF8 =
      (line document).toUTF8 ++ (linesText line documents).toUTF8 := by
  rw [linesText_cons]
  exact String.toByteArray_append

theorem writeLines_succ_of_halt {producer : Producer σ} {halt : Halt}
    (h : producer.document schema = .error halt) (count : Nat) (sink : Sink)
    (report : Report) :
    writeLines line schema (count + 1) producer sink report = .error halt := by
  rw [writeLines, h]

theorem writeLines_succ_of_error {producer later : Producer σ} {error : FieldError}
    (h : producer.document schema = .ok (.error error, later)) (count : Nat) (sink : Sink)
    (report : Report) :
    writeLines line schema (count + 1) producer sink report =
      .ok (.error (.field error), sink, later) := by
  rw [writeLines, h]

theorem writeLines_succ_of_written {producer next : Producer σ} {document : Document}
    {sink after : Sink} (h : producer.document schema = .ok (.ok document, next))
    (hwrite : sink.write (line document).toUTF8 = (true, after)) (count : Nat)
    (report : Report) :
    writeLines line schema (count + 1) producer sink report =
      writeLines line schema count next after
        ⟨report.documents + 1, report.bytes + (line document).toUTF8.size⟩ := by
  rw [writeLines, h]
  simp only [hwrite]

theorem writeLines_succ_of_full {producer next : Producer σ} {document : Document}
    {sink after : Sink} (h : producer.document schema = .ok (.ok document, next))
    (hwrite : sink.write (line document).toUTF8 = (false, after)) (count : Nat)
    (report : Report) :
    writeLines line schema (count + 1) producer sink report =
      .ok (.error .noRoom, after, next) := by
  rw [writeLines, h]
  simp only [hwrite]

/-- What is written and reported are the documents that the producer makes in a row. -/
theorem writeLines_of_documents {count : Nat} {producer later : Producer σ}
    {documents : List Document} {sink : Sink} (hroom : sink.room = none)
    (h : producer.documents schema count = .ok (.ok documents, later)) (report : Report) :
    writeLines line schema count producer sink report =
      .ok (.ok ⟨report.documents + documents.length,
          report.bytes + (linesText line documents).toUTF8.size⟩,
        ⟨sink.received ++ (linesText line documents).toUTF8, none⟩, later) := by
  induction count generalizing producer documents sink report with
  | zero =>
    rw [Producer.documents_zero, Except.ok.injEq, Prod.mk.injEq, Except.ok.injEq] at h
    obtain ⟨rfl, rfl⟩ := h
    cases sink
    cases hroom
    simp [writeLines]
  | succ count ih =>
    obtain ⟨document, next, rest, rfl, hfirst, hrest⟩ := Producer.documents_succ_eq_ok h
    rw [writeLines_succ_of_written hfirst (Sink.write_of_room_none hroom _),
      ih rfl hrest, toUTF8_linesText_cons, ByteArray.append_assoc, ByteArray.size_append]
    simp only [List.length_cons, Nat.add_assoc, Nat.add_comm 1]

theorem documents_of_writeLines {count : Nat} {producer later : Producer σ}
    {sink after : Sink} {report written : Report}
    (h : writeLines line schema count producer sink report = .ok (.ok written, after, later)) :
    ∃ documents, producer.documents schema count = .ok (.ok documents, later) ∧
      after.received = sink.received ++ (linesText line documents).toUTF8 := by
  induction count generalizing producer sink report with
  | zero =>
    rw [writeLines, Except.ok.injEq, Prod.mk.injEq, Prod.mk.injEq] at h
    obtain ⟨_, rfl, rfl⟩ := h
    exact ⟨[], rfl, ByteArray.append_empty.symm⟩
  | succ count ih =>
    rcases hfirst : producer.document schema with halt | ⟨error | document, next⟩
    · rw [writeLines_succ_of_halt hfirst] at h
      cases h
    · rw [writeLines_succ_of_error hfirst] at h
      cases h
    · rcases hwrite : sink.write (line document).toUTF8 with ⟨_ | _, full⟩
      · rw [writeLines_succ_of_full hfirst hwrite] at h
        cases h
      · rw [writeLines_succ_of_written hfirst hwrite] at h
        obtain ⟨rest, hrest, hreceived⟩ := ih h
        refine ⟨document :: rest, ?_, ?_⟩
        · rw [Producer.documents_succ_of_ok hfirst, hrest]
        · rw [hreceived, Sink.received_of_write hwrite, toUTF8_linesText_cons,
            ByteArray.append_assoc]

theorem writeLines_of_halt {count : Nat} {producer : Producer σ} {halt : Halt} {sink : Sink}
    (hroom : sink.room = none) (h : producer.documents schema count = .error halt)
    (report : Report) :
    writeLines line schema count producer sink report = .error halt := by
  induction count generalizing producer sink report with
  | zero => cases h
  | succ count ih =>
    rcases hfirst : producer.document schema with other | ⟨error | document, next⟩
    · rw [Producer.documents_succ_of_halt hfirst] at h
      cases h
      exact writeLines_succ_of_halt hfirst count sink report
    · rw [Producer.documents_succ_of_error hfirst] at h
      cases h
    · rw [writeLines_succ_of_written hfirst (Sink.write_of_room_none hroom _)]
      apply ih rfl
      rw [Producer.documents_succ_of_ok hfirst] at h
      rcases hrest : next.documents schema count with other | ⟨error | rest, last⟩
      · simpa [hrest] using h
      · simp [hrest] at h
      · simp [hrest] at h

theorem writeLines_ne_field_error (hnone : schema.errors = []) {count : Nat}
    {producer later : Producer σ} {sink after : Sink} {report : Report} {error : FieldError} :
    writeLines line schema count producer sink report ≠
      .ok (.error (.field error), after, later) := by
  induction count generalizing producer sink report with
  | zero =>
    intro h
    cases h
  | succ count ih =>
    rcases Producer.document_of_errors_eq_nil hnone producer with
      hfirst | ⟨document, source, _, hfirst⟩
    · rw [writeLines_succ_of_halt hfirst]
      intro h
      cases h
    · rcases hwrite : sink.write (line document).toUTF8 with ⟨_ | _, next⟩
      · rw [writeLines_succ_of_full hfirst hwrite]
        intro h
        cases h
      · rw [writeLines_succ_of_written hfirst hwrite]
        exact ih

/-- A field error comes before anything is written, into whatever sink. -/
theorem sink_eq_of_field_error {count : Nat} {producer later : Producer σ}
    {sink after : Sink} {report : Report} {error : FieldError}
    (h : writeLines line schema count producer sink report =
      .ok (.error (.field error), after, later)) : after = sink := by
  cases herrors : schema.errors with
  | nil => exact absurd h (writeLines_ne_field_error herrors)
  | cons first rest =>
    cases count with
    | zero => cases h
    | succ count =>
      rcases Producer.document_of_errors_eq_cons herrors producer with
        hfirst | ⟨source, hfirst⟩
      · rw [writeLines_succ_of_halt hfirst] at h
        cases h
      · rw [writeLines_succ_of_error hfirst, Except.ok.injEq, Prod.mk.injEq,
          Prod.mk.injEq] at h
        exact h.2.1.symm

theorem writeLines_ne_halt [Steady σ] (count : Nat) (producer : Producer σ) (sink : Sink)
    (report : Report) (halt : Halt) :
    writeLines line schema count producer sink report ≠ .error halt := by
  induction count generalizing producer sink report with
  | zero =>
    intro h
    cases h
  | succ count ih =>
    rcases hfirst : producer.document schema with halt | ⟨error | document, next⟩
    · exact absurd hfirst (producer.document_ne_halt schema halt)
    · rw [writeLines_succ_of_error hfirst]
      intro h
      cases h
    · rcases hwrite : sink.write (line document).toUTF8 with ⟨_ | _, after⟩
      · rw [writeLines_succ_of_full hfirst hwrite]
        intro h
        cases h
      · rw [writeLines_succ_of_written hfirst hwrite]
        exact ih _ _ _

section Write

variable {writer : Writer σ} {count : Nat} {sink : Sink}

theorem write_eq_of_lines {result : Except WriteError Report} {after : Sink}
    {later : Producer σ}
    (h : writeLines (lineText writer.encoding writer.pretty count) schema count
      writer.producer sink ⟨0, 0⟩ = .ok (result, after, later)) :
    writer.write schema count sink = .ok (result, after, { writer with producer := later }) := by
  rw [write, h]

theorem write_eq_of_halt {halt : Halt}
    (h : writeLines (lineText writer.encoding writer.pretty count) schema count
      writer.producer sink ⟨0, 0⟩ = .error halt) :
    writer.write schema count sink = .error halt := by
  rw [write, h]

/-- Every result of writing is one of its lines. -/
theorem lines_of_write_eq {result : Except WriteError Report} {after : Sink}
    {later : Writer σ} (h : writer.write schema count sink = .ok (result, after, later)) :
    writeLines (lineText writer.encoding writer.pretty count) schema count
      writer.producer sink ⟨0, 0⟩ = .ok (result, after, later.producer) := by
  rw [write] at h
  rcases hlines : writeLines (lineText writer.encoding writer.pretty count) schema count
    writer.producer sink ⟨0, 0⟩ with halt | ⟨found, full, producer⟩
  · rw [hlines] at h
    cases h
  · rw [hlines, Except.ok.injEq, Prod.mk.injEq, Prod.mk.injEq] at h
    obtain ⟨rfl, rfl, rfl⟩ := h
    rfl

theorem write_of_documents {documents : List Document} {later : Producer σ}
    (hroom : sink.room = none)
    (h : writer.producer.documents schema count = .ok (.ok documents, later)) :
    writer.write schema count sink =
      .ok (.ok ⟨documents.length,
          (linesText (lineText writer.encoding writer.pretty count) documents).toUTF8.size⟩,
        ⟨sink.received ++
          (linesText (lineText writer.encoding writer.pretty count) documents).toUTF8, none⟩,
        { writer with producer := later }) := by
  apply write_eq_of_lines
  rw [writeLines_of_documents hroom h, Nat.zero_add, Nat.zero_add]

theorem write_of_documents_halt {halt : Halt} (hroom : sink.room = none)
    (h : writer.producer.documents schema count = .error halt) :
    writer.write schema count sink = .error halt :=
  write_eq_of_halt (writeLines_of_halt hroom h ⟨0, 0⟩)

theorem write_ne_halt [Steady σ] (halt : Halt) :
    writer.write schema count sink ≠ .error halt := by
  rw [write]
  rcases hresult : writeLines (lineText writer.encoding writer.pretty count) schema count
    writer.producer sink ⟨0, 0⟩ with other | ⟨result, after, later⟩
  · exact absurd hresult (writeLines_ne_halt _ _ _ _ other)
  · intro h
    cases h

theorem write_of_document_error {error : FieldError} {later : Producer σ}
    (hcount : count ≠ 0)
    (h : writer.producer.document schema = .ok (.error error, later)) :
    writer.write schema count sink =
      .ok (.error (.field error), sink, { writer with producer := later }) := by
  obtain ⟨fewer, rfl⟩ := Nat.exists_eq_succ_of_ne_zero hcount
  exact write_eq_of_lines (writeLines_succ_of_error h fewer sink ⟨0, 0⟩)

end Write

end Writer

section AllOrNothing

variable {σ : Type} [Source σ]

/-- Into a sink that never fails either every document goes, each with a line feed after it,
or nothing goes at all: with no document asked for or a schema that passes its check the sink
receives the documents that the producer makes in a row, and otherwise the first error of the
check is given and neither the sink nor the count is touched. Whatever the sink, no field
error comes after a line. From a steady source every run comes to an end. -/
theorem write_all_or_nothing (writer : Writer σ) (schema : Schema) (count : Nat) {sink : Sink}
    (hroom : sink.room = none) :
    (count = 0 ∨ schema.check = .ok [] →
      writer.write schema count sink ≠ .error .endless →
      ∃ documents later bytes,
        writer.producer.documents schema count =
          .ok (.ok documents, ⟨later, writer.producer.produced + count⟩) ∧
        documents.length = count ∧
        bytes = (String.join (documents.map fun document =>
          (if writer.pretty = true ∧ count = 1 then document.indentedText writer.encoding
            else document.compactText writer.encoding) ++ "\n")).toUTF8 ∧
        writer.write schema count sink =
          .ok (.ok ⟨count, bytes.size⟩, ⟨sink.received ++ bytes, none⟩,
            { writer with producer := ⟨later, writer.producer.produced + count⟩ })) ∧
    (∀ error rest, count ≠ 0 → schema.check = .ok (error :: rest) →
      writer.write schema count sink ≠ .error .endless →
      ∃ later, writer.write schema count sink =
        .ok (.error (.field error), sink,
          { writer with producer := ⟨later, writer.producer.produced⟩ })) ∧
    (∀ (any after : Sink) (error : FieldError) (later : Writer σ),
      writer.write schema count any = .ok (.error (.field error), after, later) →
        after = any) ∧
    (Steady σ → writer.write schema count sink ≠ .error .endless) := by
  refine ⟨?_, ?_, ?_, ?_⟩
  · intro hgood hends
    have hdocuments : writer.producer.documents schema count = .error .endless ∨
        ∃ documents later, documents.length = count ∧
          writer.producer.documents schema count =
            .ok (.ok documents, ⟨later, writer.producer.produced + count⟩) := by
      rcases hgood with rfl | hcheck
      · exact Or.inr ⟨[], writer.producer.source, rfl, rfl⟩
      · have hnone := schema.errors_eq_of_check hcheck
        rcases Producer.documents_of_errors_eq_nil hnone writer.producer count with
          h | ⟨documents, later, hlength, _, h⟩
        · exact Or.inl h
        · exact Or.inr ⟨documents, later, hlength, h⟩
    rcases hdocuments with h | ⟨documents, later, hlength, h⟩
    · exact absurd (Writer.write_of_documents_halt hroom h) hends
    · have hline : Writer.lineText writer.encoding writer.pretty count =
          fun document => (if writer.pretty = true ∧ count = 1
            then document.indentedText writer.encoding
            else document.compactText writer.encoding) ++ "\n" := by
        funext document
        simp only [Writer.lineText, Bool.and_eq_true, decide_eq_true_eq]
      refine ⟨documents, later, _, h, hlength, rfl, ?_⟩
      rw [Writer.write_of_documents hroom h, Writer.linesText, hline, hlength]
  · intro error rest hcount hcheck hends
    have hsome := schema.errors_eq_of_check hcheck
    rcases Producer.document_of_errors_eq_cons hsome writer.producer with h | ⟨later, h⟩
    · obtain ⟨fewer, rfl⟩ := Nat.exists_eq_succ_of_ne_zero hcount
      exact absurd (Writer.write_eq_of_halt (Writer.writeLines_succ_of_halt h _ _ _)) hends
    · exact ⟨later, Writer.write_of_document_error hcount h⟩
  · intro any after error later h
    exact Writer.sink_eq_of_field_error (Writer.lines_of_write_eq h)
  · intro _
    exact Writer.write_ne_halt .endless

/-- Three documents of two fields go into an empty sink, on three lines. -/
theorem write_all_or_nothing_three :
    let schema : Schema := ⟨[("n", "getInt(1,3)"), ("item", "getFromList(a,b)")]⟩
    let writer : Writer Script := ⟨⟨Script.ofWords [5, 9], 2⟩, .typed, true⟩
    Sink.unlimited.room = none ∧ schema.check = .ok [] ∧
      ∃ documents later bytes,
        writer.producer.documents schema 3 = .ok (.ok documents, ⟨later, 5⟩) ∧
        bytes = (String.join (documents.map fun document =>
          document.compactText .typed ++ "\n")).toUTF8 ∧
        writer.write schema 3 Sink.unlimited =
          .ok (.ok ⟨3, bytes.size⟩, ⟨bytes, none⟩, { writer with producer := ⟨later, 5⟩ }) := by
  intro schema writer
  have herrors : schema.errors = [] := by decide +kernel
  have hisOk : schema.check.isOk = true := by decide +kernel
  have hcheck : schema.check = .ok [] := by
    rw [schema.check_eq_of_isOk hisOk, herrors]
  have hroom : Sink.unlimited.room = none := rfl
  obtain ⟨hall, _, _, hsteady⟩ := write_all_or_nothing writer schema 3 hroom
  obtain ⟨documents, later, bytes, hmade, _, hbytes, hwritten⟩ :=
    hall (Or.inr hcheck) (hsteady inferInstance)
  refine ⟨hroom, hcheck, documents, later, bytes, hmade, hbytes, ?_⟩
  rw [hwritten, Sink.unlimited, ByteArray.empty_append]

end AllOrNothing

end Fixture
