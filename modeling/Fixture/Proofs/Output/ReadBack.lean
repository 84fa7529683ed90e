import Fixture.Proofs.Document.Members
import Fixture.Proofs.Json.OneLine
import Fixture.Proofs.Output.Lines
import Fixture.Proofs.Schema.Reachable
import Fixture.Proofs.Text.Lines

/-!
# What was written can be read back

The compact text of a document has no line feed, so that the bytes of many documents fall
into their lines at the line feeds. In the text encoding each line, and the indented text of
a single document as well, is an object of strings and therefore the text of a schema: the
one that binds each field to the text of its value.
-/

namespace Fixture

namespace Document

variable {document : Document} {schema : Schema}

def displayed (document : Document) : List (String × String) :=
  document.fields.map fun field => (field.1, field.2.display)

theorem names_displayed (document : Document) :
    Entries.names document.displayed = document.names := by
  rw [displayed, Entries.names, List.map_map]
  rfl

theorem toJson_text (h : document.names.Nodup) :
    document.toJson .text = .object (document.displayed.map Json.stringMember) := by
  rw [toJson_eq h, displayed, List.map_map]
  rfl

/-- In either layout and with blanks after it, a document of texts is read as a schema of
the texts it shows. -/
theorem ofText_write (hgood : schema.WellNamed) (hnames : document.names = schema.names)
    (layout : Json.Layout) {blanks : List Char}
    (hblanks : ∀ c ∈ blanks, Json.isSpace c = true) :
    Schema.ofText (String.ofList (Json.write layout (document.toJson .text) ++ blanks)) =
      .ok ⟨document.displayed⟩ := by
  have hnodup : document.names.Nodup := hnames ▸ hgood.nodup
  have hnonempty : "" ∉ document.names := hnames ▸ hgood.nonempty
  rw [Schema.ofText, toJson_text hnodup, Json.read_write_strings layout _ hblanks]
  apply Schema.ofJson_strings
  · rwa [names_displayed]
  · rwa [names_displayed]

theorem ofText_compactText (hgood : schema.WellNamed) (hnames : document.names = schema.names) :
    Schema.ofText (document.compactText .text) = .ok ⟨document.displayed⟩ := by
  have hblanks : ∀ c ∈ [], Json.isSpace c = true := fun c hc => absurd hc List.not_mem_nil
  have h := ofText_write hgood hnames .compact hblanks
  rwa [List.append_nil] at h

theorem ofText_indentedText (hgood : schema.WellNamed)
    (hnames : document.names = schema.names) :
    Schema.ofText (document.indentedText .text ++ "\n") = .ok ⟨document.displayed⟩ := by
  have hblanks := Json.isSpace_of_mem_singleton (show Json.isSpace '\n' = true from rfl)
  have h := ofText_write hgood hnames (.indented 0) hblanks
  rwa [String.ofList_append] at h

theorem lineFeed_not_mem_compactText (encoding : Encoding) (document : Document) :
    Text.lineFeed ∉ Text.bytes (document.compactText encoding) :=
  Text.lineFeed_not_mem_bytes (Json.lineFeed_not_mem_write (document.toJson encoding))

end Document

namespace Writer

theorem bytes_linesText (text : Document → String) (documents : List Document) :
    Text.bytes (linesText (fun document => text document ++ "\n") documents) =
      (documents.map fun document => Text.bytes (text document)).flatMap
        (· ++ [Text.lineFeed]) := by
  induction documents with
  | nil => rfl
  | cons document documents ih =>
    rw [linesText_cons, Text.bytes_append, Text.bytes_append, Text.bytes_lineFeed, ih]
    rfl

theorem lineText_compact {encoding : Encoding} {pretty : Bool} {count : Nat}
    (h : count = 1 → pretty = false) :
    lineText encoding pretty count = fun document => document.compactText encoding ++ "\n" := by
  funext document
  have hplain : (pretty && decide (count = 1)) = false := by
    by_cases hcount : count = 1
    · rw [h hcount, Bool.false_and]
    · rw [decide_eq_false hcount, Bool.and_false]
  rw [lineText, hplain]
  rfl

theorem splitOn_linesText (encoding : Encoding) (documents : List Document) :
    (Text.bytes (linesText (fun document => document.compactText encoding ++ "\n")
        documents)).splitOn Text.lineFeed =
      documents.map (fun document => Text.bytes (document.compactText encoding)) ++ [[]] := by
  rw [bytes_linesText]
  apply Text.splitOn_lines
  intro line hline
  obtain ⟨document, _, rfl⟩ := List.mem_map.1 hline
  exact document.lineFeed_not_mem_compactText encoding

end Writer

section ReadBack

variable {σ : Type} [Source σ]

/-- Where writing succeeds, the bytes that are new in the sink fall into the compact texts of
the documents at the line feeds, unless they are the indented text of a single document. In
the text encoding each of these texts is read as the schema that binds the fields of its
document, in order, to the texts of their values. -/
theorem lines_read_back {writer later : Writer σ} {schema : Schema} {count : Nat}
    {sink after : Sink} {report : Report} (hreach : schema.Reachable)
    (h : writer.write schema count sink = .ok (.ok report, after, later)) :
    ∃ documents output,
      writer.producer.documents schema count = .ok (.ok documents, later.producer) ∧
      documents.length = count ∧
      after.received = sink.received ++ output.toUTF8 ∧
      ((count = 1 → writer.pretty = false) →
        (Text.bytes output).splitOn Text.lineFeed =
          documents.map (fun document => Text.bytes (document.compactText writer.encoding)) ++
            [[]]) ∧
      (writer.encoding = .text → ∀ document ∈ documents,
        Schema.ofText (document.compactText .text) = .ok ⟨document.displayed⟩ ∧
        (count = 1 → writer.pretty = true →
          Schema.ofText output = .ok ⟨document.displayed⟩)) := by
  obtain ⟨documents, hmade, hreceived⟩ :=
    Writer.documents_of_writeLines (Writer.lines_of_write_eq h)
  obtain ⟨hlength, hnames, _⟩ := Producer.of_documents_eq_ok hmade
  refine ⟨documents, _, hmade, hlength, hreceived, ?_, ?_⟩
  · intro hcompact
    rw [Writer.lineText_compact hcompact]
    exact Writer.splitOn_linesText writer.encoding documents
  · intro hencoding document hmem
    have hsame := hnames document hmem
    refine ⟨Document.ofText_compactText hreach.wellNamed hsame, ?_⟩
    intro hcount hpretty
    obtain ⟨single, hsingle⟩ := List.length_eq_one_iff.1 (hlength.trans hcount)
    rw [hsingle] at hmem ⊢
    rw [← List.mem_singleton.1 hmem]
    have hline : Writer.linesText (Writer.lineText writer.encoding writer.pretty count)
        [document] = document.indentedText .text ++ "\n" := by
      rw [Writer.linesText_cons, Writer.linesText_nil, String.append_empty, Writer.lineText,
        hencoding, hcount, hpretty]
      rfl
    rw [hline]
    exact Document.ofText_indentedText hreach.wellNamed hsame

/-- A line feed and quotation marks in a field name and in an item do not spoil the lines. -/
theorem lines_read_back_quoted :
    let schema : Schema := ⟨[("a\n\"b", "getFromList(x\ny)"), ("n", "getInt(1,3)")]⟩
    let writer : Writer Script := ⟨⟨Script.ofWords [5, 9], 2⟩, .text, true⟩
    schema.Reachable ∧ ∃ report after later, ∃ documents : List Document,
      writer.write schema 2 Sink.unlimited = .ok (.ok report, after, later) ∧
      documents.length = 2 ∧
      after.received.data.toList.splitOn Text.lineFeed =
        documents.map (fun document => Text.bytes (document.compactText .text)) ++ [[]] ∧
      ∀ document ∈ documents,
        Schema.ofText (document.compactText .text) = .ok ⟨document.displayed⟩ := by
  intro schema writer
  have hreach : schema.Reachable := by
    apply Schema.Reachable.ofPairs
    show Schema.ofPairs schema.fields = .ok schema
    rfl
  have hwritten : ∃ report after later,
      writer.write schema 2 Sink.unlimited = .ok (.ok report, after, later) := by
    have hnone : schema.errors = [] := by decide +kernel
    rcases Producer.documents_of_errors_eq_nil hnone writer.producer 2 with
      hendless | ⟨documents, last, _, _, hmade⟩
    · exact absurd hendless (writer.producer.documents_ne_endless schema 2)
    · exact ⟨_, _, _, Writer.write_of_documents rfl hmade⟩
  obtain ⟨report, after, later, h⟩ := hwritten
  obtain ⟨documents, output, _, hlength, hreceived, hlines, hread⟩ := lines_read_back hreach h
  rw [Sink.unlimited, ByteArray.empty_append] at hreceived
  refine ⟨hreach, report, after, later, documents, h, hlength, ?_, ?_⟩
  · rw [hreceived]
    exact hlines (by decide)
  · intro document hmem
    exact (hread rfl document hmem).1

end ReadBack

end Fixture
