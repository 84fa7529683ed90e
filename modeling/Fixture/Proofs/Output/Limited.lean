import Fixture.Proofs.Output.Lines

/-!
# Sinks with little room

A sink that has room for only so many bytes takes the lines of a run one after the other until
one does not fit, and of that line what fits. So it always holds as much of the lines as there
is room for, and of the documents only the one of the line that was cut off is lost: it has
been made, and no other after it.
-/

namespace Fixture

namespace Sink

variable {before bytes : ByteArray} {room : Nat}

theorem write_of_le (h : bytes.size ≤ room) :
    (Sink.mk before (some room)).write bytes =
      (true, ⟨before ++ bytes, some (room - bytes.size)⟩) := by
  simp only [write, if_pos h]

theorem write_of_lt (h : room < bytes.size) :
    (Sink.mk before (some room)).write bytes =
      (false, ⟨before ++ bytes.extract 0 room, some 0⟩) := by
  simp only [write, if_neg (Nat.not_le.2 h)]

end Sink

section Extract

variable {first second : ByteArray} {room : Nat}

theorem extract_append_of_size_le (h : first.size ≤ room) :
    (first ++ second).extract 0 room = first ++ second.extract 0 (room - first.size) := by
  obtain ⟨extra, rfl⟩ := Nat.exists_eq_add_of_le h
  rw [ByteArray.extract_eq_extract_append_extract first.size (Nat.zero_le _) h,
    ByteArray.extract_append_eq_left rfl, Nat.add_sub_cancel_left]
  exact congrArg _ (ByteArray.extract_append_size_add (i := 0))

theorem extract_append_of_le_size (h : room ≤ first.size) :
    (first ++ second).extract 0 room = first.extract 0 room := by
  have hparts : first = first.extract 0 room ++ first.extract room first.size := by
    rw [← ByteArray.extract_eq_extract_append_extract room (Nat.zero_le _) h,
      ByteArray.extract_zero_size]
  have hsize : room = (first.extract 0 room).size := by
    rw [ByteArray.size_extract, Nat.min_eq_left h, Nat.sub_zero]
  calc (first ++ second).extract 0 room
      = (first.extract 0 room ++ (first.extract room first.size ++ second)).extract 0 room := by
        rw [← ByteArray.append_assoc, ← hparts]
    _ = first.extract 0 room := ByteArray.extract_append_eq_left hsize

end Extract

namespace Writer

variable {σ : Type} [Source σ] {line : Document → String} {schema : Schema}

def firstLines (line : Document → String) (documents : List Document) (n : Nat) : ByteArray :=
  (linesText line (documents.take n)).toUTF8

variable {document : Document} {documents : List Document}

@[simp] theorem firstLines_zero : firstLines line documents 0 = ByteArray.empty := rfl

theorem firstLines_cons_succ (n : Nat) :
    firstLines line (document :: documents) (n + 1) =
      (line document).toUTF8 ++ firstLines line documents n := by
  rw [firstLines, List.take_succ_cons, toUTF8_linesText_cons, firstLines]

theorem firstLines_succ {n : Nat} (h : documents[n]? = some document) :
    firstLines line documents (n + 1) =
      firstLines line documents n ++ (line document).toUTF8 := by
  induction n generalizing documents with
  | zero =>
    obtain ⟨rest, rfl⟩ := List.head?_eq_some_iff.1 (List.head?_eq_getElem? ▸ h)
    rw [firstLines_cons_succ, firstLines_zero, firstLines_zero, ByteArray.append_empty,
      ByteArray.empty_append]
  | succ n ih =>
    cases documents with
    | nil => cases h
    | cons first rest =>
      rw [firstLines_cons_succ, firstLines_cons_succ, ih h, ByteArray.append_assoc]

theorem firstLines_append_drop (n : Nat) :
    firstLines line documents n ++ (linesText line (documents.drop n)).toUTF8 =
      (linesText line documents).toUTF8 := by
  induction n generalizing documents with
  | zero => rw [firstLines_zero, List.drop_zero, ByteArray.empty_append]
  | succ n ih =>
    cases documents with
    | nil => rfl
    | cons first rest =>
      rw [firstLines_cons_succ, List.drop_succ_cons, ByteArray.append_assoc, ih,
        toUTF8_linesText_cons]

theorem size_firstLines_le {m n : Nat} (h : m ≤ n) :
    (firstLines line documents m).size ≤ (firstLines line documents n).size := by
  have hm : firstLines line documents m = firstLines line (documents.take n) m := by
    rw [firstLines, firstLines, List.take_take, Nat.min_eq_left h]
  have hn : firstLines line documents n = firstLines line (documents.take n) m ++
      (linesText line ((documents.take n).drop m)).toUTF8 := (firstLines_append_drop m).symm
  rw [hm, hn, ByteArray.size_append]
  exact Nat.le_add_right _ _

/-- How many starts of the lines there is room for tells which line is cut off. -/
theorem countP_firstLines {complete count room : Nat} (hcount : complete < count)
    (hle : (firstLines line documents complete).size ≤ room)
    (hlt : room < (firstLines line documents (complete + 1)).size) :
    (List.range count).countP (fun n => (firstLines line documents n).size ≤ room) =
      complete + 1 := by
  obtain ⟨further, rfl⟩ := Nat.exists_eq_add_of_le (Nat.succ_le_of_lt hcount)
  have hfit : (List.range (complete + 1)).countP
      (fun n => (firstLines line documents n).size ≤ room) = complete + 1 := by
    rw [List.countP_eq_length.2, List.length_range]
    intro n hn
    have hn : n ≤ complete := Nat.le_of_lt_succ (List.mem_range.1 hn)
    exact decide_eq_true (Nat.le_trans (size_firstLines_le hn) hle)
  rw [List.range_add, List.countP_append, hfit, List.countP_map, List.countP_eq_zero.2]
  intro n _
  have hn : complete + 1 ≤ complete + 1 + n := Nat.le_add_right _ n
  simp only [Function.comp_apply, decide_eq_true_eq, Nat.not_le]
  exact Nat.lt_of_lt_of_le hlt (size_firstLines_le hn)

theorem extract_linesText_of_cut {complete room : Nat}
    (hlast : documents[complete]? = some document)
    (hle : (firstLines line documents complete).size ≤ room)
    (hlt : room < (firstLines line documents (complete + 1)).size) :
    ∃ part < (line document).toUTF8.size,
      (linesText line documents).toUTF8.extract 0 room =
        firstLines line documents complete ++ (line document).toUTF8.extract 0 part := by
  refine ⟨room - (firstLines line documents complete).size, ?_, ?_⟩
  · rw [firstLines_succ hlast, ByteArray.size_append] at hlt
    exact Nat.sub_lt_left_of_lt_add hle hlt
  · rw [← firstLines_append_drop (complete + 1),
      extract_append_of_le_size (Nat.le_of_lt hlt), firstLines_succ hlast,
      extract_append_of_size_le hle]

/-- Lines that fit are all written. -/
theorem writeLines_of_fits {count : Nat} {producer final : Producer σ} {before : ByteArray}
    {room : Nat} (h : producer.documents schema count = .ok (.ok documents, final))
    (hfits : (linesText line documents).toUTF8.size ≤ room) (report : Report) :
    writeLines line schema count producer ⟨before, some room⟩ report =
      .ok (.ok ⟨report.documents + documents.length,
          report.bytes + (linesText line documents).toUTF8.size⟩,
        ⟨before ++ (linesText line documents).toUTF8,
          some (room - (linesText line documents).toUTF8.size)⟩, final) := by
  induction count generalizing producer documents before room report with
  | zero =>
    rw [Producer.documents_zero, Except.ok.injEq, Prod.mk.injEq, Except.ok.injEq] at h
    obtain ⟨rfl, rfl⟩ := h
    simp [writeLines]
  | succ count ih =>
    obtain ⟨document, next, rest, rfl, hfirst, hrest⟩ := Producer.documents_succ_eq_ok h
    rw [toUTF8_linesText_cons, ByteArray.size_append] at hfits ⊢
    have hline : (line document).toUTF8.size ≤ room := Nat.le_trans (Nat.le_add_right _ _) hfits
    rw [writeLines_succ_of_written hfirst (Sink.write_of_le hline),
      ih hrest (Nat.le_sub_of_add_le' hfits), ByteArray.append_assoc, Nat.sub_sub]
    simp only [List.length_cons, Nat.add_assoc, Nat.add_comm 1]

/-- Lines that do not fit are cut off at the limit, within the line of the last document that
was made. -/
theorem writeLines_of_cut {count : Nat} {producer final : Producer σ} {before : ByteArray}
    {room : Nat} (h : producer.documents schema count = .ok (.ok documents, final))
    (hcut : room < (linesText line documents).toUTF8.size) (report : Report) :
    ∃ complete document later,
      documents[complete]? = some document ∧
      (firstLines line documents complete).size ≤ room ∧
      room < (firstLines line documents (complete + 1)).size ∧
      producer.documents schema (complete + 1) =
        .ok (.ok (documents.take (complete + 1)), later) ∧
      writeLines line schema count producer ⟨before, some room⟩ report =
        .ok (.error .noRoom,
          ⟨before ++ (linesText line documents).toUTF8.extract 0 room, some 0⟩, later) := by
  induction count generalizing producer documents before room report with
  | zero =>
    rw [Producer.documents_zero, Except.ok.injEq, Prod.mk.injEq, Except.ok.injEq] at h
    obtain ⟨rfl, rfl⟩ := h
    exact absurd hcut (Nat.not_lt_zero room)
  | succ count ih =>
    obtain ⟨document, next, rest, rfl, hfirst, hrest⟩ := Producer.documents_succ_eq_ok h
    rw [toUTF8_linesText_cons] at hcut ⊢
    -- The line that is cut off is the first, or it comes later, where the room is what the
    -- first has left.
    rcases Nat.lt_or_ge room (line document).toUTF8.size with hfull | hline
    · refine ⟨0, document, next, rfl, Nat.zero_le room, ?_, ?_, ?_⟩
      · rw [firstLines_cons_succ, firstLines_zero, ByteArray.append_empty]
        exact hfull
      · rw [Producer.documents_succ_of_ok hfirst]
        rfl
      · rw [writeLines_succ_of_full hfirst (Sink.write_of_lt hfull),
          extract_append_of_le_size (Nat.le_of_lt hfull)]
    · rw [ByteArray.size_append] at hcut
      obtain ⟨complete, last, later, hlast, hle, hlt, hmade, hwritten⟩ :=
        ih hrest (Nat.sub_lt_left_of_lt_add hline hcut)
          ⟨report.documents + 1, report.bytes + (line document).toUTF8.size⟩
      refine ⟨complete + 1, last, later, hlast, ?_, ?_, ?_, ?_⟩
      · rw [firstLines_cons_succ, ByteArray.size_append]
        exact Nat.add_le_of_le_sub' hline hle
      · rw [firstLines_cons_succ, ByteArray.size_append]
        exact (Nat.sub_lt_iff_lt_add' hline).1 hlt
      · rw [Producer.documents_succ_of_ok hfirst, hmade]
        rfl
      · rw [writeLines_succ_of_written hfirst (Sink.write_of_le hline), hwritten,
          ByteArray.append_assoc, extract_append_of_size_le hline]

section Write

variable {writer : Writer σ} {count room : Nat} {final : Producer σ}

theorem write_of_fits (hline : line = lineText writer.encoding writer.pretty count)
    (h : writer.producer.documents schema count = .ok (.ok documents, final))
    (hfits : (linesText line documents).toUTF8.size ≤ room) (before : ByteArray) :
    writer.write schema count ⟨before, some room⟩ =
      .ok (.ok ⟨documents.length, (linesText line documents).toUTF8.size⟩,
        ⟨before ++ (linesText line documents).toUTF8,
          some (room - (linesText line documents).toUTF8.size)⟩,
        { writer with producer := final }) := by
  subst hline
  apply write_eq_of_lines
  rw [writeLines_of_fits h hfits, Nat.zero_add, Nat.zero_add]

theorem write_of_cut (hline : line = lineText writer.encoding writer.pretty count)
    (h : writer.producer.documents schema count = .ok (.ok documents, final))
    (hcut : room < (linesText line documents).toUTF8.size) (before : ByteArray) :
    ∃ complete document later,
      documents[complete]? = some document ∧
      (firstLines line documents complete).size ≤ room ∧
      room < (firstLines line documents (complete + 1)).size ∧
      writer.producer.documents schema (complete + 1) =
        .ok (.ok (documents.take (complete + 1)), later) ∧
      writer.write schema count ⟨before, some room⟩ =
        .ok (.error .noRoom,
          ⟨before ++ (linesText line documents).toUTF8.extract 0 room, some 0⟩,
          { writer with producer := later }) := by
  subst hline
  obtain ⟨complete, document, later, hlast, hle, hlt, hmade, hlines⟩ :=
    writeLines_of_cut h hcut ⟨0, 0⟩
  exact ⟨complete, document, later, hlast, hle, hlt, hmade, write_eq_of_lines hlines⟩

end Write

end Writer

section Limited

variable {σ : Type} [Source σ]

open Writer (lineText linesText firstLines)

/-- For a schema without errors a sink with room for so many bytes ends up with that many of
the lines that a sink without a limit would receive, and writing succeeds if and only if this
is all of them. Otherwise the documents made are as many as there are starts of the lines that
the sink has room for, the empty one included: those whose lines the sink received, and the
one whose line was cut off. The producer is left as after making these and no others. From a
steady source every run comes to an end. -/
theorem full_sink_loses_the_tail (writer : Writer σ) {schema : Schema}
    (hnone : schema.errors = []) (count : Nat) (before : ByteArray) (room : Nat) :
    (writer.write schema count ⟨before, none⟩ ≠ .error .endless →
      ∃ line documents final bytes,
        line = lineText writer.encoding writer.pretty count ∧
        documents.length = count ∧
        writer.producer.documents schema count = .ok (.ok documents, final) ∧
        bytes = (linesText line documents).toUTF8 ∧
        writer.write schema count ⟨before, none⟩ =
          .ok (.ok ⟨count, bytes.size⟩, ⟨before ++ bytes, none⟩,
            { writer with producer := final }) ∧
        ∃ result left later,
          writer.write schema count ⟨before, some room⟩ =
            .ok (result, ⟨before ++ bytes.extract 0 (min room bytes.size), left⟩,
              { writer with producer := later }) ∧
          ((∃ report, result = .ok report) ↔ bytes.size ≤ room) ∧
          (∀ report, result = .ok report → report = ⟨count, bytes.size⟩ ∧ later = final) ∧
          (∀ error, result = .error error → error = .noRoom ∧
            ∃ made,
              made = (List.range count).countP
                (fun n => (firstLines line documents n).size ≤ room) ∧
              later.produced = writer.producer.produced + made ∧
              writer.producer.documents schema made =
                .ok (.ok (documents.take made), later) ∧
              ∃ complete document,
                made = complete + 1 ∧
                documents[complete]? = some document ∧
                ∃ part < (line document).toUTF8.size,
                  bytes.extract 0 (min room bytes.size) =
                    firstLines line documents complete ++
                      (line document).toUTF8.extract 0 part)) ∧
    (Steady σ → writer.write schema count ⟨before, none⟩ ≠ .error .endless) := by
  refine ⟨?_, fun _ => Writer.write_ne_halt .endless⟩
  intro hends
  rcases Producer.documents_of_errors_eq_nil hnone writer.producer count with
    h | ⟨documents, source, hlength, _, hmade⟩
  · exact absurd (Writer.write_of_documents_halt rfl h) hends
  · have hunlimited := Writer.write_of_documents (rfl : (Sink.mk before none).room = none) hmade
    obtain ⟨line, hline⟩ : ∃ line, line = lineText writer.encoding writer.pretty count :=
      ⟨_, rfl⟩
    rw [hlength, ← hline] at hunlimited
    refine ⟨line, documents, _, _, hline, hlength, hmade, rfl, hunlimited, ?_⟩
    rcases Nat.lt_or_ge room (linesText line documents).toUTF8.size with hcut | hfits
    · obtain ⟨complete, document, later, hlast, hle, hlt, hsome, hwritten⟩ :=
        Writer.write_of_cut hline hmade hcut before
      rw [Nat.min_eq_left (Nat.le_of_lt hcut)]
      refine ⟨.error .noRoom, some 0, later, hwritten, ?_, ?_, ?_⟩
      · exact iff_of_false (fun ⟨_, h⟩ => nomatch h) (Nat.not_le.2 hcut)
      · rintro report ⟨⟩
      · rintro error ⟨⟩
        have hcount : complete < count := by
          rw [← hlength]
          exact (List.getElem?_eq_some_iff.1 hlast).1
        obtain ⟨_, _, hproduced⟩ := Producer.of_documents_eq_ok hsome
        exact ⟨rfl, complete + 1, (Writer.countP_firstLines hcount hle hlt).symm, hproduced,
          hsome, complete, document, rfl, hlast,
          Writer.extract_linesText_of_cut hlast hle hlt⟩
    · have hwritten := Writer.write_of_fits hline hmade hfits before
      rw [hlength] at hwritten
      rw [Nat.min_eq_right hfits, ByteArray.extract_zero_size]
      refine ⟨_, _, _, hwritten, iff_of_true ⟨_, rfl⟩ hfits, ?_, ?_⟩
      · rintro report ⟨⟩
        exact ⟨rfl, rfl⟩
      · rintro error ⟨⟩

/-- Room for two of three lines and no byte more: the third document is made for nothing. -/
theorem full_sink_loses_the_tail_boundary :
    let schema : Schema := ⟨[("n", "getInt(1,3)")]⟩
    let writer : Writer Script := ⟨⟨Script.ofWords [5, 9223372036854775808], 0⟩, .text, false⟩
    let line := lineText .text false 3
    let first : Document := ⟨[("n", .int 1)]⟩
    let second : Document := ⟨[("n", .int 2)]⟩
    schema.errors = [] ∧ (linesText line [first, second]).toUTF8.size = 20 ∧
      ∃ bytes left later,
        bytes = (linesText line [first, second, first]).toUTF8 ∧
        writer.write schema 3 ⟨ByteArray.empty, some 20⟩ =
          .ok (.error .noRoom, ⟨bytes.extract 0 20, left⟩, { writer with producer := later }) ∧
        later.produced = 3 := by
  intro schema writer line first second
  have hnone : schema.errors = [] := by decide +kernel
  have htwo : (linesText line [first, second]).toUTF8.size = 20 := by decide +kernel
  have hthree : (linesText line [first, second, first]).toUTF8.size = 30 := by decide +kernel
  have hstarts : (List.range 3).countP
      (fun n => (firstLines line [first, second, first] n).size ≤ 20) = 3 := by decide +kernel
  obtain ⟨hlimited, hends⟩ := full_sink_loses_the_tail writer hnone 3 ByteArray.empty 20
  obtain ⟨_, documents, _, bytes, rfl, _, hmade, hbytes, _, result, left, later, hwritten,
    hiff, _, hfull⟩ := hlimited (hends inferInstance)
  have hdocuments : (writer.producer.documents schema 3).toOption.bind
      (fun made => made.1.toOption) = some [first, second, first] := by decide +kernel
  rw [hmade] at hdocuments
  obtain rfl : documents = [first, second, first] := Option.some.inj hdocuments
  have hsize : bytes.size = 30 := by
    rw [hbytes]
    exact hthree
  rw [hsize, Nat.min_eq_left (by decide : 20 ≤ 30), ByteArray.empty_append] at hwritten
  have hlong : ¬bytes.size ≤ 20 := by
    rw [hsize]
    decide
  cases result with
  | ok report => exact absurd (hiff.1 ⟨report, rfl⟩) hlong
  | error error =>
    obtain ⟨rfl, made, hcount, hproduced, _⟩ := hfull error rfl
    have hmade : made = 3 := hcount.trans hstarts
    rw [hmade] at hproduced
    exact ⟨hnone, htwo, bytes, left, later, hbytes, hwritten, hproduced⟩

end Limited

end Fixture
