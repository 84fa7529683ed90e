import Fixture.Proofs.Output.Replacement
import Fixture.Proofs.Producer.Passes

/-!
# The history of a producer

A producer may be asked for documents, for their text and for checks, may give batches that
are left before their end, and may be lent to writers whose sinks fill up and whose paths lead
nowhere. `Performs` says for each of these through which passes it goes, read off its answer
alone. The main statement is that after any of them in any order the count is the number of
documents that were completed, whether or not they got anywhere, and the source has been drawn
from by the invocations that succeeded, in order, and by nothing else.
-/

namespace Fixture

theorem Sink.received_of_write_false {sink after : Sink} {bytes : ByteArray}
    (h : sink.write bytes = (false, after)) :
    ∃ part < bytes.size, after.received = sink.received ++ bytes.extract 0 part := by
  unfold Sink.write at h
  split at h
  · cases h
  · rename_i room hroom
    split at h
    · cases h
    · rename_i hsize
      rw [← (Prod.mk.inj h).2]
      exact ⟨room, Nat.lt_of_not_le hsize, rfl⟩

namespace Writer

variable {σ : Type} [Source σ] {line : Document → String} {schema : Schema}
  {producer later : Producer σ} {sink after : Sink} {report written : Report} {count : Nat}

/-- One more line: its document fails, or it does not fit, or it is written and the others
follow. -/
theorem writeLines_succ_eq_ok {result : Except WriteError Report}
    (h : writeLines line schema (count + 1) producer sink report = .ok (result, after, later)) :
    (∃ error, producer.document schema = .ok (.error error, later) ∧
      result = .error (.field error)) ∨
    (∃ document, producer.document schema = .ok (.ok document, later) ∧
      sink.write (line document).toUTF8 = (false, after) ∧ result = .error .noRoom) ∨
    ∃ document next full, producer.document schema = .ok (.ok document, next) ∧
      sink.write (line document).toUTF8 = (true, full) ∧
      writeLines line schema count next full
        ⟨report.documents + 1, report.bytes + (line document).toUTF8.size⟩ =
          .ok (result, after, later) := by
  rcases hfirst : producer.document schema with halt | ⟨error | document, next⟩
  · rw [writeLines_succ_of_halt hfirst] at h
    cases h
  · rw [writeLines_succ_of_error hfirst] at h
    cases h
    exact .inl ⟨error, rfl, rfl⟩
  · rcases hwrite : sink.write (line document).toUTF8 with ⟨_ | _, full⟩
    · rw [writeLines_succ_of_full hfirst hwrite] at h
      cases h
      exact .inr (.inl ⟨document, rfl, hwrite, rfl⟩)
    · rw [writeLines_succ_of_written hfirst hwrite] at h
      exact .inr (.inr ⟨document, next, full, rfl, hwrite, h⟩)

theorem documents_eq_of_writeLines
    (h : writeLines line schema count producer sink report = .ok (.ok written, after, later)) :
    written.documents = report.documents + count := by
  induction count generalizing producer sink report with
  | zero =>
    cases h
    rfl
  | succ count ih =>
    rcases writeLines_succ_eq_ok h with ⟨error, _, hresult⟩ | ⟨document, _, _, hresult⟩ |
      ⟨document, next, full, _, _, hrest⟩
    · cases hresult
    · cases hresult
    · rw [ih hrest, Nat.add_assoc, Nat.add_comm 1]

theorem document_of_field_error {error : FieldError}
    (h : writeLines line schema count producer sink report =
      .ok (.error (.field error), after, later)) :
    producer.document schema = .ok (.error error, later) := by
  cases count with
  | zero => cases h
  | succ count =>
    rcases writeLines_succ_eq_ok h with ⟨found, hfails, hresult⟩ | ⟨document, _, _, hresult⟩ |
      ⟨document, next, full, hfirst, _, hrest⟩
    · cases hresult
      exact hfails
    · cases hresult
    · have hnone := (Producer.of_document_eq_ok hfirst).1
      exact absurd hrest (writeLines_ne_field_error hnone)

/-- Where the sink ends writing it has the lines of all documents that were made but the last,
and of that one what there was room for. -/
theorem documents_of_noRoom
    (h : writeLines line schema count producer sink report = .ok (.error .noRoom, after, later)) :
    ∃ documents last part,
      documents.length < count ∧ part < (line last).toUTF8.size ∧
      producer.documents schema (documents.length + 1) =
        .ok (.ok (documents ++ [last]), later) ∧
      after.received = sink.received ++
        ((linesText line documents).toUTF8 ++ (line last).toUTF8.extract 0 part) := by
  induction count generalizing producer sink report with
  | zero => cases h
  | succ count ih =>
    rcases writeLines_succ_eq_ok h with ⟨error, _, hresult⟩ | ⟨document, hfirst, hwrite, _⟩ |
      ⟨document, next, full, hfirst, hwrite, hrest⟩
    · cases hresult
    · obtain ⟨part, hpart, hreceived⟩ := Sink.received_of_write_false hwrite
      refine ⟨[], document, part, Nat.succ_pos count, hpart, ?_, ?_⟩
      · rw [List.length_nil, Producer.documents_succ_of_ok hfirst]
        rfl
      · rw [hreceived, linesText_nil]
        exact congrArg _ ByteArray.empty_append.symm
    · obtain ⟨documents, last, part, hlength, hpart, hmade, hreceived⟩ := ih hrest
      refine ⟨document :: documents, last, part, Nat.succ_lt_succ hlength, hpart, ?_, ?_⟩
      · rw [List.length_cons, Producer.documents_succ_of_ok hfirst, hmade]
        rfl
      · rw [hreceived, Sink.received_of_write hwrite, toUTF8_linesText_cons,
          ByteArray.append_assoc, ByteArray.append_assoc]

theorem writeLines_ne_noRoom (hroom : sink.room = none) :
    writeLines line schema count producer sink report ≠ .ok (.error .noRoom, after, later) := by
  intro h
  induction count generalizing producer sink report with
  | zero => cases h
  | succ count ih =>
    rcases writeLines_succ_eq_ok h with ⟨error, _, hresult⟩ | ⟨document, _, hwrite, _⟩ |
      ⟨document, next, full, _, hwrite, hrest⟩
    · cases hresult
    · rw [Sink.write_of_room_none hroom] at hwrite
      cases hwrite
    · rw [Sink.write_of_room_none hroom] at hwrite
      cases hwrite
      exact ih rfl hrest

theorem writeLines_halt {halt : Halt}
    (h : writeLines line schema count producer sink report = .error halt) :
    halt = .endless ∧ ¬Steady σ := by
  induction count generalizing producer sink report with
  | zero => cases h
  | succ count ih =>
    rcases hfirst : producer.document schema with other | ⟨error | document, next⟩
    · rw [writeLines_succ_of_halt hfirst] at h
      cases h
      exact Producer.document_halt hfirst
    · rw [writeLines_succ_of_error hfirst] at h
      cases h
    · rcases hwrite : sink.write (line document).toUTF8 with ⟨_ | _, full⟩
      · rw [writeLines_succ_of_full hfirst hwrite] at h
        cases h
      · rw [writeLines_succ_of_written hfirst hwrite] at h
        exact ih h

theorem write_halt {writer : Writer σ} {halt : Halt}
    (h : writer.write schema count sink = .error halt) : halt = .endless ∧ ¬Steady σ := by
  rw [write] at h
  rcases hlines : writeLines (lineText writer.encoding writer.pretty count) schema count
    writer.producer sink ⟨0, 0⟩ with other | ⟨result, full, last⟩
  · rw [hlines] at h
    cases h
    exact writeLines_halt hlines
  · rw [hlines] at h
    cases h

theorem writeToPath_halt {writer : Writer σ} {folder : Folder} {path : String} {halt : Halt}
    (h : writer.writeToPath schema count folder path = .error halt) :
    halt = .endless ∧ ¬Steady σ := by
  unfold writeToPath at h
  split at h
  · cases h
  split at h
  · rename_i other hwrite
    cases h
    exact write_halt hwrite
  · cases h
  · split at h
    · cases h
    · cases h

end Writer

/-- What a producer is used for: a document, the text of one, a check, a batch that is asked so
often and then left, or a writer that is lent the producer for a sink or a path. -/
inductive Operation where
  | document (schema : Schema)
  | json (schema : Schema) (encoding : Encoding)
  | check (schema : Schema)
  | batch (schema : Schema) (count calls : Nat)
  | write (encoding : Encoding) (pretty : Bool) (schema : Schema) (count : Nat) (sink : Sink)
  | writeToPath (encoding : Encoding) (pretty : Bool) (schema : Schema) (count : Nat)
      (folder : Folder) (path : String)

inductive Answer where
  | document (result : Except FieldError Document)
  | json (result : Except FieldError String)
  | check (errors : List FieldError)
  | batch (items : List (Option (Except FieldError Document)))
  | write (result : Except WriteError Report) (after : Sink)
  | writeToPath (result : Except PathError Report) (after : Folder)

/-- Through which passes an operation with this answer goes. -/
inductive Performs : Operation → Answer → List Pass → Prop
  | documentMade {schema : Schema} {document : Document} :
      Performs (.document schema) (.document (.ok document)) [.made schema document]
  | documentFailed {schema : Schema} {error : FieldError} {values : List Value} :
      Performs (.document schema) (.document (.error error)) [.failed schema error values]
  | jsonMade {schema : Schema} {encoding : Encoding} {document : Document} :
      Performs (.json schema encoding) (.json (.ok (document.compactText encoding)))
        [.made schema document]
  | jsonFailed {schema : Schema} {encoding : Encoding} {error : FieldError}
      {values : List Value} :
      Performs (.json schema encoding) (.json (.error error)) [.failed schema error values]
  | checked {schema : Schema} {errors : List FieldError} {values : List Value} :
      Performs (.check schema) (.check errors) [.checked schema errors values]
  | batchMade {schema : Schema} {count calls : Nat} {documents : List Document}
      (hlength : documents.length = min calls count) :
      Performs (.batch schema count calls)
        (.batch ((documents.map .ok).map some ++ List.replicate (calls - documents.length) none))
        (documents.map (.made schema))
  | batchFailed {schema : Schema} {count calls : Nat} {error : FieldError}
      {values : List Value} (hcalls : min calls count ≠ 0) :
      Performs (.batch schema count calls)
        (.batch (some (.error error) :: List.replicate (calls - 1) none))
        [.failed schema error values]
  | written {encoding : Encoding} {pretty : Bool} {schema : Schema} {count : Nat}
      {sink after : Sink} {report : Report} {documents : List Document}
      (hreport : report.documents = documents.length) (hlength : documents.length = count)
      (hreceived : after.received = sink.received ++
        (Writer.linesText (Writer.lineText encoding pretty count) documents).toUTF8) :
      Performs (.write encoding pretty schema count sink) (.write (.ok report) after)
        (documents.map (.made schema))
  | writeFailed {encoding : Encoding} {pretty : Bool} {schema : Schema} {count : Nat}
      {sink : Sink} {error : FieldError} {values : List Value} :
      Performs (.write encoding pretty schema count sink) (.write (.error (.field error)) sink)
        [.failed schema error values]
  /-- The document whose line does not fit has been made. -/
  | writeFull {encoding : Encoding} {pretty : Bool} {schema : Schema} {count part : Nat}
      {sink after : Sink} {documents : List Document} {last : Document}
      (hlength : documents.length < count)
      (hpart : part < (Writer.lineText encoding pretty count last).toUTF8.size)
      (hreceived : after.received = sink.received ++
        ((Writer.linesText (Writer.lineText encoding pretty count) documents).toUTF8 ++
          (Writer.lineText encoding pretty count last).toUTF8.extract 0 part)) :
      Performs (.write encoding pretty schema count sink) (.write (.error .noRoom) after)
        ((documents ++ [last]).map (.made schema))
  /-- Without a draft nothing is made. -/
  | pathNoDraft {encoding : Encoding} {pretty : Bool} {schema : Schema} {count : Nat}
      {folder : Folder} {path draft : String} {cause : FileError} :
      Performs (.writeToPath encoding pretty schema count folder path)
        (.writeToPath (.error (.noDraft draft cause)) folder) []
  | pathFailed {encoding : Encoding} {pretty : Bool} {schema : Schema} {count : Nat}
      {folder : Folder} {path : String} {error : FieldError} {values : List Value} :
      Performs (.writeToPath encoding pretty schema count folder path)
        (.writeToPath (.error (.writing (.field error))) folder) [.failed schema error values]
  /-- All documents have been made when the draft cannot take the place of the file. -/
  | pathNotPlaced {encoding : Encoding} {pretty : Bool} {schema : Schema} {count : Nat}
      {folder : Folder} {path : String} {cause : FileError} {documents : List Document}
      (hlength : documents.length = count) :
      Performs (.writeToPath encoding pretty schema count folder path)
        (.writeToPath (.error (.notPlaced cause)) folder) (documents.map (.made schema))
  | pathPlaced {encoding : Encoding} {pretty : Bool} {schema : Schema} {count : Nat}
      {folder after : Folder} {path : String} {report : Report} {documents : List Document}
      (hreport : report.documents = documents.length) (hlength : documents.length = count) :
      Performs (.writeToPath encoding pretty schema count folder path)
        (.writeToPath (.ok report) after) (documents.map (.made schema))

/-- Through which passes operations with these answers go, one after the other. -/
inductive History : List Operation → List Answer → List Pass → Prop
  | nil : History [] [] []
  | cons {operation : Operation} {answer : Answer} {passes more : List Pass}
      {operations : List Operation} {answers : List Answer}
      (h : Performs operation answer passes) (hmore : History operations answers more) :
      History (operation :: operations) (answer :: answers) (passes ++ more)

namespace Producer

variable {σ : Type} [Source σ]

def use (producer : Producer σ) : Operation → Except Halt (Answer × Producer σ)
  | .document schema =>
    (producer.document schema).map fun (result, later) => (.document result, later)
  | .json schema encoding =>
    (producer.json schema encoding).map fun (result, later) => (.json result, later)
  | .check schema =>
    (producer.check schema).map fun (errors, later) => (.check errors, later)
  | .batch schema count calls =>
    ((Batch.mk schema count).ask producer calls).map fun (items, _, later) =>
      (.batch items, later)
  | .write encoding pretty schema count sink =>
    ((Writer.mk producer encoding pretty).write schema count sink).map
      fun (result, after, writer) => (.write result after, writer.producer)
  | .writeToPath encoding pretty schema count folder path =>
    ((Writer.mk producer encoding pretty).writeToPath schema count folder path).map
      fun (result, after, writer) => (.writeToPath result after, writer.producer)

def useEach (producer : Producer σ) : List Operation → Except Halt (List Answer × Producer σ)
  | [] => .ok ([], producer)
  | operation :: rest =>
    match producer.use operation with
    | .error halt => .error halt
    | .ok (answer, next) =>
      match next.useEach rest with
      | .error halt => .error halt
      | .ok (answers, later) => .ok (answer :: answers, later)

variable {producer later : Producer σ}

theorem exists_of_map_eq_ok {α β : Type} {done : Except Halt α} {f : α → β} {b : β}
    (h : done.map f = .ok b) : ∃ a, done = .ok a ∧ f a = b := by
  cases done with
  | error halt => cases h
  | ok a => exact ⟨a, rfl, Except.ok.inj h⟩

theorem eq_error_of_map_eq_error {α β : Type} {done : Except Halt α} {f : α → β} {halt : Halt}
    (h : done.map f = .error halt) : done = .error halt := by
  cases done with
  | error other =>
    cases h
    rfl
  | ok a => cases h

section Write

variable {encoding : Encoding} {pretty : Bool} {schema : Schema} {count : Nat}
  {sink after : Sink} {writer : Writer σ}

theorem reached_of_write {result : Except WriteError Report}
    (h : (Writer.mk producer encoding pretty).write schema count sink =
      .ok (result, after, writer)) :
    ∃ passes, Performs (.write encoding pretty schema count sink) (.write result after) passes ∧
      Reached producer passes writer.producer := by
  have hlines := Writer.lines_of_write_eq h
  rcases result with error | report
  · cases error with
    | noRoom =>
      obtain ⟨documents, last, part, hlength, hpart, hmade, hreceived⟩ :=
        Writer.documents_of_noRoom hlines
      exact ⟨_, .writeFull hlength hpart hreceived, reached_of_documents hmade⟩
    | field error =>
      obtain rfl := Writer.sink_eq_of_field_error hlines
      obtain ⟨values, hreached⟩ :=
        reached_of_document_error (Writer.document_of_field_error hlines)
      exact ⟨_, .writeFailed, hreached⟩
  · obtain ⟨documents, hmade, hreceived⟩ := Writer.documents_of_writeLines hlines
    have hlength := (of_documents_eq_ok hmade).1
    have hreport : report.documents = documents.length := by
      rw [Writer.documents_eq_of_writeLines hlines, hlength, Nat.zero_add]
    exact ⟨_, .written hreport hlength hreceived, reached_of_documents hmade⟩

theorem reached_of_writeToPath {result : Except PathError Report} {folder last : Folder}
    {path : String}
    (h : (Writer.mk producer encoding pretty).writeToPath schema count folder path =
      .ok (result, last, writer)) :
    ∃ passes, Performs (.writeToPath encoding pretty schema count folder path)
        (.writeToPath result last) passes ∧
      Reached producer passes writer.producer := by
  cases Writer.outcome_of_writeToPath h with
  | noDraft _ => exact ⟨[], .pathNoDraft, .nil producer⟩
  | @stopped draft prepared error sink later _ hwrite =>
    have hlines := Writer.lines_of_write_eq hwrite
    cases error with
    | noRoom => exact absurd hlines (Writer.writeLines_ne_noRoom rfl)
    | field error =>
      obtain ⟨values, hreached⟩ :=
        reached_of_document_error (Writer.document_of_field_error hlines)
      exact ⟨_, .pathFailed, hreached⟩
  | notPlaced _ hwrite _ =>
    obtain ⟨documents, hmade, _⟩ :=
      Writer.documents_of_writeLines (Writer.lines_of_write_eq hwrite)
    exact ⟨_, .pathNotPlaced (of_documents_eq_ok hmade).1, reached_of_documents hmade⟩
  | placed _ hwrite _ =>
    have hlines := Writer.lines_of_write_eq hwrite
    obtain ⟨documents, hmade, _⟩ := Writer.documents_of_writeLines hlines
    have hlength := (of_documents_eq_ok hmade).1
    have hreport := Writer.documents_eq_of_writeLines hlines
    rw [Nat.zero_add, ← hlength] at hreport
    exact ⟨_, .pathPlaced hreport hlength, reached_of_documents hmade⟩

end Write

/-- Whatever a producer is used for, it goes through the passes that the answer tells. -/
theorem reached_of_use {operation : Operation} {answer : Answer}
    (h : producer.use operation = .ok (answer, later)) :
    ∃ passes, Performs operation answer passes ∧ Reached producer passes later := by
  cases operation with
  | document schema =>
    obtain ⟨⟨result, next⟩, hdone, heq⟩ := exists_of_map_eq_ok h
    cases heq
    cases result with
    | ok document => exact ⟨_, .documentMade, reached_of_document hdone⟩
    | error error =>
      obtain ⟨values, hreached⟩ := reached_of_document_error hdone
      exact ⟨_, .documentFailed, hreached⟩
  | json schema encoding =>
    obtain ⟨⟨result, next⟩, hdone, heq⟩ := exists_of_map_eq_ok h
    cases heq
    rw [json] at hdone
    rcases hdocument : producer.document schema with halt | ⟨error | document, last⟩
    · simp [hdocument] at hdone
    · simp only [hdocument, Except.ok.injEq, Prod.mk.injEq] at hdone
      obtain ⟨rfl, rfl⟩ := hdone
      obtain ⟨values, hreached⟩ := reached_of_document_error hdocument
      exact ⟨_, .jsonFailed, hreached⟩
    · simp only [hdocument, Except.ok.injEq, Prod.mk.injEq] at hdone
      obtain ⟨rfl, rfl⟩ := hdone
      exact ⟨_, .jsonMade, reached_of_document hdocument⟩
  | check schema =>
    obtain ⟨⟨errors, next⟩, hdone, heq⟩ := exists_of_map_eq_ok h
    cases heq
    obtain ⟨values, hreached⟩ := reached_of_check hdone
    exact ⟨_, .checked, hreached⟩
  | batch schema count calls =>
    obtain ⟨⟨items, rest, next⟩, hdone, heq⟩ := exists_of_map_eq_ok h
    cases heq
    obtain ⟨results, hattempts, rfl, _⟩ := Batch.exists_attempts_of_ask hdone
    rcases documents_or_error_of_attempts hattempts with
      ⟨documents, hlength, rfl, hmade⟩ | ⟨error, hcalls, _, rfl, hfails⟩
    · rw [List.length_map]
      exact ⟨_, .batchMade hlength, reached_of_documents hmade⟩
    · obtain ⟨values, hreached⟩ := reached_of_document_error hfails
      exact ⟨_, .batchFailed hcalls, hreached⟩
  | write encoding pretty schema count sink =>
    obtain ⟨⟨result, after, writer⟩, hdone, heq⟩ := exists_of_map_eq_ok h
    cases heq
    exact reached_of_write hdone
  | writeToPath encoding pretty schema count folder path =>
    obtain ⟨⟨result, after, writer⟩, hdone, heq⟩ := exists_of_map_eq_ok h
    cases heq
    exact reached_of_writeToPath hdone

theorem reached_of_useEach {operations : List Operation} {answers : List Answer}
    (h : producer.useEach operations = .ok (answers, later)) :
    ∃ passes, History operations answers passes ∧ Reached producer passes later := by
  induction operations generalizing producer answers with
  | nil =>
    cases h
    exact ⟨[], .nil, .nil later⟩
  | cons operation rest ih =>
    rw [useEach] at h
    rcases hfirst : producer.use operation with halt | ⟨answer, next⟩
    · simp [hfirst] at h
    · rcases hrest : next.useEach rest with halt | ⟨more, last⟩
      · simp [hfirst, hrest] at h
      · simp only [hfirst, hrest, Except.ok.injEq, Prod.mk.injEq] at h
        obtain ⟨rfl, rfl⟩ := h
        obtain ⟨passes, hperforms, hreached⟩ := reached_of_use hfirst
        obtain ⟨others, hhistory, hlater⟩ := ih hrest
        exact ⟨_, .cons hperforms hhistory, hreached.append hlater⟩

theorem use_halt {operation : Operation} {halt : Halt}
    (h : producer.use operation = .error halt) : halt = .endless ∧ ¬Steady σ := by
  cases operation with
  | document schema => exact document_halt (eq_error_of_map_eq_error h)
  | json schema encoding =>
    have hjson := eq_error_of_map_eq_error h
    rw [json] at hjson
    rcases hdocument : producer.document schema with other | ⟨error | document, last⟩
    · simp only [hdocument, Except.error.injEq] at hjson
      exact hjson ▸ document_halt hdocument
    · simp [hdocument] at hjson
    · simp [hdocument] at hjson
  | check schema => exact check_halt (eq_error_of_map_eq_error h)
  | batch schema count calls => exact Batch.ask_halt (eq_error_of_map_eq_error h)
  | write encoding pretty schema count sink =>
    exact Writer.write_halt (eq_error_of_map_eq_error h)
  | writeToPath encoding pretty schema count folder path =>
    exact Writer.writeToPath_halt (eq_error_of_map_eq_error h)

theorem useEach_halt {operations : List Operation} {halt : Halt}
    (h : producer.useEach operations = .error halt) : halt = .endless ∧ ¬Steady σ := by
  induction operations generalizing producer with
  | nil => cases h
  | cons operation rest ih =>
    rw [useEach] at h
    rcases hfirst : producer.use operation with other | ⟨answer, next⟩
    · simp only [hfirst, Except.error.injEq] at h
      exact h ▸ use_halt hfirst
    · rcases hrest : next.useEach rest with other | ⟨more, last⟩
      · simp only [hfirst, hrest, Except.error.injEq] at h
        exact ih (h ▸ hrest)
      · simp [hfirst, hrest] at h

end Producer

section Counting

variable {σ : Type} [Source σ]

/-- Whatever a producer that has made nothing yet is used for, and in whatever order, it goes
through passes that the answers tell. The count is the number of those that completed a
document, and the recipes of all invocations that succeeded, drawn one after the other from the
source that there was first, give the values that were made and the source that there is last.
Every use comes to an end unless no word is ever accepted, and from a steady source one always
is. -/
theorem count_and_source_follow_history (source : σ) (operations : List Operation) :
    (∀ answers later,
      (Producer.ofSource source).useEach operations = .ok (answers, later) →
      ∃ passes, History operations answers passes ∧
        (∀ pass ∈ passes, pass.Valid) ∧
        later.produced = passes.countP Pass.completes ∧
        (passes.flatMap Pass.recipes).mapM Recipe.draw source =
          .ok (passes.flatMap Pass.values, later.source)) ∧
    ((Producer.ofSource source).useEach operations ≠ .error .endless →
      ∃ answers later,
        (Producer.ofSource source).useEach operations = .ok (answers, later)) ∧
    (Steady σ → (Producer.ofSource source).useEach operations ≠ .error .endless) := by
  refine ⟨?_, ?_, ?_⟩
  · intro answers later h
    obtain ⟨passes, hhistory, hreached⟩ := Producer.reached_of_useEach h
    refine ⟨passes, hhistory, hreached.valid, ?_, hreached.drawn⟩
    rw [hreached.counted]
    exact Nat.zero_add _
  · intro hends
    rcases huse : (Producer.ofSource source).useEach operations with halt | ⟨answers, later⟩
    · rw [huse] at hends
      exact absurd (congrArg _ (Producer.useEach_halt huse).1) hends
    · exact ⟨answers, later, rfl⟩
  · intro hsteady h
    exact (Producer.useEach_halt h).2 hsteady

/-- A document and a check of a schema with a bad field, a batch that is left after one of
three documents, a sink too small for a line, and a directory where the file should go: four
documents, and six draws. -/
theorem count_and_source_follow_history_mixed :
    let good : Schema := ⟨[("n", "getInt(1,3)")]⟩
    let bad : Schema := ⟨[("n", "getInt(1,3)"), ("m", "getFoo()")]⟩
    let source := Script.ofWords [5, 9]
    let operations : List Operation :=
      [.document bad, .check bad, .batch good 3 1, .write .text false good 2 (Sink.limited 3),
        .writeToPath .text false good 2 ⟨["w"], [("w", .directory), ("w/d", .directory)]⟩ "d"]
    ∃ answers later passes,
      (Producer.ofSource source).useEach operations = .ok (answers, later) ∧
      History operations answers passes ∧ later.produced = 4 ∧
      passes.countP Pass.completes = 4 ∧
      (passes.flatMap Pass.recipes).mapM Recipe.draw source =
        .ok (passes.flatMap Pass.values, later.source) ∧
      later.source.drawn.length = 6 := by
  intro good bad source operations
  obtain ⟨hhistory, hends, hsteady⟩ := count_and_source_follow_history source operations
  obtain ⟨answers, later, huse⟩ := hends (hsteady inferInstance)
  obtain ⟨passes, hpasses, _, hcount, hdrawn⟩ := hhistory answers later huse
  have hlast : ((Producer.ofSource source).useEach operations).toOption.map
      (fun done => (done.2.produced, done.2.source.drawn.length)) = some (4, 6) := by
    decide +kernel
  rw [huse] at hlast
  obtain ⟨hproduced, hlength⟩ := Prod.mk.inj (Option.some.inj hlast)
  exact ⟨answers, later, passes, huse, hpasses, hproduced, hcount ▸ hproduced, hdrawn, hlength⟩

end Counting

end Fixture
