import Fixture.Proofs.Output.ReadBack
import Mathlib.Algebra.GroupWithZero.Nat

/-!
# Writing may be cut anywhere

Writing some documents and then some more leaves the sink and the writer as writing all of them
at once does, as long as none of them is indented: a line depends on its document alone, and
nothing is written between two lines or after the last. So a number of documents may be cut
into as many writes as one likes, and the reports of these add up to the report of the whole.
-/

namespace Fixture

namespace Producer

variable {σ : Type} [Source σ] {producer later : Producer σ} {schema : Schema}

theorem documents_add (producer : Producer σ) (schema : Schema) (first second : Nat) :
    producer.documents schema (first + second) =
      match producer.documents schema first with
      | .error halt => .error halt
      | .ok (.error error, between) => .ok (.error error, between)
      | .ok (.ok front, between) =>
        match between.documents schema second with
        | .error halt => .error halt
        | .ok (.error error, later) => .ok (.error error, later)
        | .ok (.ok back, later) => .ok (.ok (front ++ back), later) := by
  induction first generalizing producer with
  | zero =>
    rw [Nat.zero_add, documents_zero]
    dsimp only
    rcases producer.documents schema second with halt | ⟨error | back, later⟩ <;> rfl
  | succ first ih =>
    rw [Nat.add_right_comm]
    rcases hmade : producer.document schema with halt | ⟨error | document, next⟩
    · rw [documents_succ_of_halt hmade, documents_succ_of_halt hmade]
    · rw [documents_succ_of_error hmade, documents_succ_of_error hmade]
    · rw [documents_succ_of_ok hmade, documents_succ_of_ok hmade, ih]
      rcases next.documents schema first with halt | ⟨error | front, between⟩
      · rfl
      · rfl
      · dsimp only
        rcases between.documents schema second with halt | ⟨error | back, later⟩ <;> rfl

theorem documents_add_eq_ok {first second : Nat} {documents : List Document}
    (h : producer.documents schema (first + second) = .ok (.ok documents, later)) :
    ∃ front between back, documents = front ++ back ∧
      producer.documents schema first = .ok (.ok front, between) ∧
      between.documents schema second = .ok (.ok back, later) := by
  rw [documents_add] at h
  rcases hfirst : producer.documents schema first with halt | ⟨error | front, between⟩
  · simp [hfirst] at h
  · simp [hfirst] at h
  · rcases hsecond : between.documents schema second with halt | ⟨error | back, last⟩
    · simp [hfirst, hsecond] at h
    · simp [hfirst, hsecond] at h
    · simp only [hfirst, hsecond, Except.ok.injEq, Prod.mk.injEq] at h
      obtain ⟨rfl, rfl⟩ := h
      exact ⟨front, between, back, rfl, rfl, hsecond⟩

theorem documents_add_eq_halt {first second : Nat} {halt : Halt}
    (h : producer.documents schema (first + second) = .error halt) :
    producer.documents schema first = .error halt ∨
      ∃ front between, producer.documents schema first = .ok (.ok front, between) ∧
        between.documents schema second = .error halt := by
  rw [documents_add] at h
  rcases hfirst : producer.documents schema first with other | ⟨error | front, between⟩
  · rw [hfirst] at h
    exact .inl h
  · simp [hfirst] at h
  · rcases hsecond : between.documents schema second with other | ⟨error | back, last⟩
    · simp only [hfirst, hsecond] at h
      exact .inr ⟨front, between, rfl, h ▸ hsecond⟩
    · simp [hfirst, hsecond] at h
    · simp [hfirst, hsecond] at h

end Producer

namespace Report

def add (first second : Report) : Report :=
  ⟨first.documents + second.documents, first.bytes + second.bytes⟩

def sum (reports : List Report) : Report :=
  reports.foldr add ⟨0, 0⟩

theorem sum_cons (report : Report) (reports : List Report) :
    sum (report :: reports) = report.add (sum reports) := rfl

end Report

namespace Writer

variable {σ : Type} [Source σ] {schema : Schema}

/-- Write one number of documents after the other into the same sink, up to the first error. -/
def writeEach (writer : Writer σ) (schema : Schema) :
    List Nat → Sink → Except Halt (Except WriteError (List Report) × Sink × Writer σ)
  | [], sink => .ok (.ok [], sink, writer)
  | count :: counts, sink =>
    match writer.write schema count sink with
    | .error halt => .error halt
    | .ok (.error error, after, next) => .ok (.error error, after, next)
    | .ok (.ok report, after, next) =>
      match next.writeEach schema counts after with
      | .error halt => .error halt
      | .ok (.error error, last) => .ok (.error error, last)
      | .ok (.ok reports, last) => .ok (.ok (report :: reports), last)

/-- Writing each of these numbers of documents into an empty sink of its own gives these
reports and leaves these bytes in the sinks. -/
inductive WritesApart (schema : Schema) :
    Writer σ → List Nat → List Report → List ByteArray → Writer σ → Prop
  | nil (writer : Writer σ) : WritesApart schema writer [] [] [] writer
  | cons {writer next later : Writer σ} {count : Nat} {counts : List Nat} {report : Report}
      {reports : List Report} {after : Sink} {outputs : List ByteArray}
      (h : writer.write schema count Sink.unlimited = .ok (.ok report, after, next))
      (hmore : WritesApart schema next counts reports outputs later) :
      WritesApart schema writer (count :: counts) (report :: reports)
        (after.received :: outputs) later

def compactLine (encoding : Encoding) (document : Document) : String :=
  document.compactText encoding ++ "\n"

theorem toUTF8_linesText_append (line : Document → String) (front back : List Document) :
    (linesText line (front ++ back)).toUTF8 =
      (linesText line front).toUTF8 ++ (linesText line back).toUTF8 := by
  induction front with
  | nil =>
    rw [List.nil_append, linesText_nil]
    exact ByteArray.empty_append.symm
  | cons document front ih =>
    rw [List.cons_append, toUTF8_linesText_cons, ih, toUTF8_linesText_cons,
      ByteArray.append_assoc]

theorem write_compact (writer : Writer σ) {count : Nat}
    (hcompact : writer.pretty = true → count ≠ 1) {documents : List Document}
    {last : Producer σ}
    (h : writer.producer.documents schema count = .ok (.ok documents, last))
    (received : ByteArray) :
    writer.write schema count ⟨received, none⟩ =
      .ok (.ok ⟨documents.length,
          (linesText (compactLine writer.encoding) documents).toUTF8.size⟩,
        ⟨received ++ (linesText (compactLine writer.encoding) documents).toUTF8, none⟩,
        { writer with producer := last }) := by
  have hplain : count = 1 → writer.pretty = false := by
    intro hcount
    rw [← Bool.not_eq_true]
    exact fun hpretty => hcompact hpretty hcount
  rw [write_of_documents rfl h, lineText_compact hplain]
  rfl

/-- Documents that are made in a row may be cut into writes of any sizes. -/
theorem writeEach_of_documents (writer : Writer σ) {counts : List Nat}
    (hcompact : writer.pretty = true → ∀ count ∈ counts, count ≠ 1)
    {documents : List Document} {last : Producer σ}
    (h : writer.producer.documents schema counts.sum = .ok (.ok documents, last))
    (received : ByteArray) :
    ∃ reports outputs,
      WritesApart schema writer counts reports outputs { writer with producer := last } ∧
      writer.writeEach schema counts ⟨received, none⟩ =
        .ok (.ok reports, ⟨outputs.foldl (· ++ ·) received, none⟩,
          { writer with producer := last }) ∧
      outputs.foldl (· ++ ·) received =
        received ++ (linesText (compactLine writer.encoding) documents).toUTF8 ∧
      Report.sum reports = ⟨documents.length,
        (linesText (compactLine writer.encoding) documents).toUTF8.size⟩ := by
  -- the sink goes on with what the writes before it have left there
  induction counts generalizing writer received documents with
  | nil =>
    cases h
    exact ⟨[], [], .nil writer, rfl, ByteArray.append_empty.symm, rfl⟩
  | cons count counts ih =>
    rw [List.sum_cons] at h
    obtain ⟨front, between, back, rfl, hfront, hback⟩ := Producer.documents_add_eq_ok h
    have hcount : writer.pretty = true → count ≠ 1 :=
      fun hpretty => hcompact hpretty count List.mem_cons_self
    have hmore : writer.pretty = true → ∀ other ∈ counts, other ≠ 1 :=
      fun hpretty other hother => hcompact hpretty other (List.mem_cons_of_mem count hother)
    have hfirst := writer.write_compact hcount hfront received
    have hapart := writer.write_compact hcount hfront ByteArray.empty
    rw [ByteArray.empty_append] at hapart
    obtain ⟨reports, outputs, hrest, heach, hreceived, hsum⟩ :=
      ih { writer with producer := between } hmore hback
        (received ++ (linesText (compactLine writer.encoding) front).toUTF8)
    refine ⟨_, _, .cons hapart hrest, ?_, ?_, ?_⟩
    · rw [writeEach, hfirst]
      simp only [heach]
      rfl
    · rw [List.foldl_cons, hreceived, toUTF8_linesText_append, ByteArray.append_assoc]
    · rw [Report.sum_cons, hsum, Report.add, List.length_append, toUTF8_linesText_append,
        ByteArray.size_append]

theorem writeEach_of_documents_halt (writer : Writer σ) {counts : List Nat}
    (hcompact : writer.pretty = true → ∀ count ∈ counts, count ≠ 1) {halt : Halt}
    (h : writer.producer.documents schema counts.sum = .error halt) (received : ByteArray) :
    writer.writeEach schema counts ⟨received, none⟩ = .error halt := by
  induction counts generalizing writer received with
  | nil => cases h
  | cons count counts ih =>
    rw [List.sum_cons] at h
    rcases Producer.documents_add_eq_halt h with hfront | ⟨front, between, hfront, hback⟩
    · rw [writeEach, write_of_documents_halt rfl hfront]
    · have hcount : writer.pretty = true → count ≠ 1 :=
        fun hpretty => hcompact hpretty count List.mem_cons_self
      have hmore : writer.pretty = true → ∀ other ∈ counts, other ≠ 1 :=
        fun hpretty other hother => hcompact hpretty other (List.mem_cons_of_mem count hother)
      rw [writeEach, writer.write_compact hcount hfront received]
      simp only [ih { writer with producer := between } hmore hback]

theorem sum_ne_one {counts : List Nat} (h : ∀ count ∈ counts, count ≠ 1) : counts.sum ≠ 1 := by
  induction counts with
  | nil => exact Nat.zero_ne_one
  | cons count counts ih =>
    have hcount := h count List.mem_cons_self
    have hrest := ih fun other hother => h other (List.mem_cons_of_mem count hother)
    rw [List.sum_cons]
    omega

end Writer

section Cuts

variable {σ : Type} [Source σ]

/-- For a schema without errors, writing some documents and then some more into a sink that
never fails leaves it and the writer as writing all of them at once does, and the two reports
add up to the report of the whole; the same holds of any number of writes, so that nothing but
the number of documents in all counts. The sink receives one after the other what each write
would leave in an empty sink. All this is so if documents are not indented, or if none of the
writes is of a single document; then the whole is not of a single one either. If no word is
ever accepted, neither the whole nor the writes come to an end; from a steady source they do. -/
theorem writes_add_up (writer : Writer σ) {schema : Schema} (hnone : schema.errors = [])
    {sink : Sink} (hroom : sink.room = none) :
    (∀ first second : Nat, (writer.pretty = true → first ≠ 1 ∧ second ≠ 1) →
      writer.write schema (first + second) sink = .error .endless ∧
        writer.writeEach schema [first, second] sink = .error .endless ∨
      ∃ report more middle after between later,
        writer.write schema first sink = .ok (.ok report, middle, between) ∧
        between.write schema second middle = .ok (.ok more, after, later) ∧
        writer.write schema (first + second) sink =
          .ok (.ok ⟨report.documents + more.documents, report.bytes + more.bytes⟩,
            after, later)) ∧
    (∀ counts : List Nat, (writer.pretty = true → ∀ count ∈ counts, count ≠ 1) →
      writer.write schema counts.sum sink = .error .endless ∧
        writer.writeEach schema counts sink = .error .endless ∨
      ∃ reports outputs after later,
        Writer.WritesApart schema writer counts reports outputs later ∧
        after = ⟨outputs.foldl (· ++ ·) sink.received, none⟩ ∧
        writer.writeEach schema counts sink = .ok (.ok reports, after, later) ∧
        writer.write schema counts.sum sink =
          .ok (.ok (Report.sum reports), after, later)) ∧
    (Steady σ → ∀ count, writer.write schema count sink ≠ .error .endless) := by
  obtain ⟨received, room⟩ := sink
  obtain rfl : room = none := hroom
  refine ⟨?_, ?_, ?_⟩
  · intro first second hcompact
    have hparts : writer.pretty = true → ∀ count ∈ [first, second], count ≠ 1 := by
      simpa using hcompact
    have hwhole : writer.pretty = true → first + second ≠ 1 := by
      intro hpretty
      have hneither := hcompact hpretty
      omega
    rcases Producer.documents_of_errors_eq_nil hnone writer.producer (first + second) with
      h | ⟨documents, last, _, _, h⟩
    · exact .inl ⟨Writer.write_of_documents_halt rfl h,
        writer.writeEach_of_documents_halt hparts (by simpa using h) received⟩
    · obtain ⟨front, between, back, rfl, hfront, hback⟩ := Producer.documents_add_eq_ok h
      refine .inr ⟨_, _, _, _, _, _,
        writer.write_compact (fun hpretty => (hcompact hpretty).1) hfront received,
        Writer.write_compact { writer with producer := between }
          (fun hpretty => (hcompact hpretty).2) hback _, ?_⟩
      rw [writer.write_compact hwhole h, List.length_append, Writer.toUTF8_linesText_append,
        ByteArray.size_append, ByteArray.append_assoc]
  · intro counts hcompact
    rcases Producer.documents_of_errors_eq_nil hnone writer.producer counts.sum with
      h | ⟨documents, last, _, _, h⟩
    · exact .inl ⟨Writer.write_of_documents_halt rfl h,
        writer.writeEach_of_documents_halt hcompact h received⟩
    · obtain ⟨reports, outputs, hapart, heach, hreceived, hsum⟩ :=
        writer.writeEach_of_documents hcompact h received
      refine .inr ⟨reports, outputs, _, _, hapart, rfl, heach, ?_⟩
      rw [writer.write_compact (fun hpretty => Writer.sum_ne_one (hcompact hpretty)) h,
        hreceived, hsum]
  · intro _ count
    exact Writer.write_ne_halt .endless

/-- Three documents at once, as one and two, and as two, none and one, into a sink that has
something in it. -/
theorem writes_add_up_three :
    let schema : Schema := ⟨[("n", "getInt(1,3)"), ("item", "getFromList(a,b)")]⟩
    let writer : Writer Script := ⟨⟨Script.ofWords [5, 9223372036854775808], 2⟩, .text, false⟩
    let sink : Sink := ⟨"[]".toUTF8, none⟩
    schema.errors = [] ∧ sink.room = none ∧
    ∃ total after later,
      writer.write schema 3 sink = .ok (.ok total, after, later) ∧
      (∃ report more middle between,
        writer.write schema 1 sink = .ok (.ok report, middle, between) ∧
        between.write schema 2 middle = .ok (.ok more, after, later) ∧
        total = ⟨report.documents + more.documents, report.bytes + more.bytes⟩) ∧
      ∃ reports outputs, Writer.WritesApart schema writer [2, 0, 1] reports outputs later ∧
        writer.writeEach schema [2, 0, 1] sink = .ok (.ok reports, after, later) ∧
        total = Report.sum reports := by
  intro schema writer sink
  have hnone : schema.errors = [] := by decide +kernel
  obtain ⟨htwo, heach, hends⟩ := writes_add_up writer hnone (rfl : sink.room = none)
  have hend := hends inferInstance 3
  obtain ⟨report, more, middle, after, between, later, hfirst, hsecond, hwhole⟩ :=
    (htwo 1 2 (fun hpretty => nomatch hpretty)).resolve_left fun h => hend h.1
  obtain ⟨reports, outputs, last, writer', hapart, _, hwritten, hsum⟩ :=
    (heach [2, 0, 1] (fun hpretty => nomatch hpretty)).resolve_left fun h => hend h.1
  have hsame := hwhole.symm.trans hsum
  simp only [Except.ok.injEq, Prod.mk.injEq] at hsame
  obtain ⟨htotal, rfl, rfl⟩ := hsame
  exact ⟨hnone, rfl, _, after, later, hwhole, ⟨report, more, middle, between, hfirst, hsecond, rfl⟩,
    reports, outputs, hapart, hwritten, htotal⟩

/-- A document that is indented takes more than its line. -/
example :
    let schema : Schema := ⟨[("n", "getInt(1,3)")]⟩
    let writer : Writer Script := ⟨⟨Script.ofWords [5], 0⟩, .text, true⟩
    ((writer.writeEach schema [1, 1] Sink.unlimited).toOption.map fun written =>
        written.2.1.received) ≠
      (writer.write schema 2 Sink.unlimited).toOption.map fun written =>
        written.2.1.received := by
  decide +kernel

end Cuts

end Fixture
