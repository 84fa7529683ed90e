import Fixture.Output.ToPath
import Fixture.Proofs.Folder.Draft
import Fixture.Proofs.Output.Lines

/-!
# Files are replaced at once or not at all

A call that writes to a path can end in four ways, and `Outcome` says what each does: only the
last one, in which everything went well, changes the folder, and only where the path puts a
file. Calls that share a writer are chained, and what one call does holds of every call among
them, whatever came before.
-/

namespace Fixture

namespace Writer

variable {σ : Type} [Source σ] {writer later : Writer σ} {schema : Schema} {count : Nat}
  {folder after : Folder} {path : String} {result : Except PathError Report}

/-- The ways in which a call ends, each with the folder and the writer that it leaves. -/
inductive Outcome (writer : Writer σ) (schema : Schema) (count : Nat) (folder : Folder)
    (path : String) : Except PathError Report → Folder → Writer σ → Prop
  | noDraft {draft : String} {cause : FileError} (hdraft : folder.makeDraft path = .error cause) :
      Outcome writer schema count folder path (.error (.noDraft draft cause)) folder writer
  | stopped {draft : Draft} {prepared : Folder} {error : WriteError} {sink : Sink}
      {later : Writer σ} (hdraft : folder.makeDraft path = .ok (draft, prepared))
      (hwrite : writer.write schema count Sink.unlimited = .ok (.error error, sink, later)) :
      Outcome writer schema count folder path (.error (.writing error)) folder later
  | notPlaced {draft : Draft} {prepared : Folder} {report : Report} {sink : Sink}
      {later : Writer σ} {cause : FileError}
      (hdraft : folder.makeDraft path = .ok (draft, prepared))
      (hwrite : writer.write schema count Sink.unlimited = .ok (.ok report, sink, later))
      (htarget : prepared.target path = .error cause) :
      Outcome writer schema count folder path (.error (.notPlaced cause)) folder later
  | placed {draft : Draft} {prepared : Folder} {report : Report} {sink : Sink}
      {later : Writer σ} {place : Place} {name : String}
      (hdraft : folder.makeDraft path = .ok (draft, prepared))
      (hwrite : writer.write schema count Sink.unlimited = .ok (.ok report, sink, later))
      (htarget : folder.target path = .ok (place, name)) :
      Outcome writer schema count folder path (.ok report)
        (folder.putFile ⟨place, name⟩ sink.received) later

theorem outcome_of_writeToPath
    (h : writer.writeToPath schema count folder path = .ok (result, after, later)) :
    Outcome writer schema count folder path result after later := by
  unfold writeToPath at h
  split at h
  · rename_i cause hdraft
    simp only [Except.ok.injEq, Prod.mk.injEq] at h
    obtain ⟨rfl, rfl, rfl⟩ := h
    exact .noDraft hdraft
  rename_i draft prepared hdraft
  have hdrafted := (Folder.of_makeDraft_eq_ok hdraft).2.1
  split at h
  · cases h
  · rename_i error sink next hwrite
    simp only [Except.ok.injEq, Prod.mk.injEq, hdrafted.dropDraft_eq] at h
    obtain ⟨rfl, rfl, rfl⟩ := h
    exact .stopped hdraft hwrite
  · rename_i report sink next hwrite
    rcases htarget : prepared.target path with cause | ⟨place, name⟩
    · have hplace : prepared.placeDraft draft sink.received path = .error cause := by
        rw [Folder.placeDraft, htarget]
      simp only [hplace, Except.ok.injEq, Prod.mk.injEq, hdrafted.dropDraft_eq] at h
      obtain ⟨rfl, rfl, rfl⟩ := h
      exact .notPlaced hdraft hwrite htarget
    · have hplace := hdrafted.placeDraft_eq htarget sink.received
      simp only [hplace, Except.ok.injEq, Prod.mk.injEq] at h
      obtain ⟨rfl, rfl, rfl⟩ := h
      exact .placed hdraft hwrite (Folder.target_of_same hdrafted.same.symm htarget)

theorem writeToPath_ne_halt [Steady σ] (halt : Halt) :
    writer.writeToPath schema count folder path ≠ .error halt := by
  intro h
  unfold writeToPath at h
  split at h
  · cases h
  split at h
  · rename_i other hwrite
    exact absurd hwrite (write_ne_halt other)
  · cases h
  · split at h
    · cases h
    · cases h

theorem write_ne_error_of_errors_eq_nil (hnone : schema.errors = []) {sink full : Sink}
    (hroom : sink.room = none) {error : WriteError} :
    writer.write schema count sink ≠ .ok (.error error, full, later) := by
  intro h
  rcases Producer.documents_of_errors_eq_nil hnone writer.producer count with
    hmade | ⟨documents, last, _, _, hmade⟩
  · rw [write_of_documents_halt hroom hmade] at h
    cases h
  · rw [write_of_documents hroom hmade] at h
    cases h

/-- With a path to a directory a call fails when all documents have been made. -/
theorem Outcome.notPlaced_of_directory
    (h : Outcome writer schema count folder path result after later)
    (hnone : schema.errors = []) (hfits : folder.DraftFits path) {place : Place}
    (hfollow : folder.follow path = .ok (.directory place)) :
    (∃ cause, result = .error (.notPlaced cause)) ∧
      ∃ report sink,
        writer.write schema count Sink.unlimited = .ok (.ok report, sink, later) := by
  cases h with
  | noDraft hdraft =>
    obtain ⟨draft, prepared, hmade⟩ := Folder.makeDraft_of_follow hfollow hfits
    rw [hmade] at hdraft
    cases hdraft
  | stopped _ hwrite => exact absurd hwrite (write_ne_error_of_errors_eq_nil hnone rfl)
  | notPlaced _ hwrite _ => exact ⟨⟨_, rfl⟩, _, _, hwrite⟩
  | placed _ _ htarget => exact absurd htarget (Folder.target_ne_ok_of_directory hfollow _ _)

structure Request where
  schema : Schema
  count : Nat
  path : String

/-- Calls one after the other with the result of each, where each has the folder and the writer
that the one before it leaves. -/
inductive Runs : Folder → Writer σ → List (Request × Except PathError Report) →
    Folder → Writer σ → Prop
  | nil (folder : Folder) (writer : Writer σ) : Runs folder writer [] folder writer
  | cons {folder next last : Folder} {writer later final : Writer σ} {request : Request}
      {result : Except PathError Report} {calls : List (Request × Except PathError Report)}
      (h : writer.writeToPath request.schema request.count folder request.path =
        .ok (result, next, later))
      (hrest : Runs next later calls last final) :
      Runs folder writer ((request, result) :: calls) last final

/-- Each call of a run starts where the calls before it end and leaves the rest to the calls
after it. -/
theorem Runs.split {last : Folder} {final : Writer σ} {request : Request}
    {earlier rest : List (Request × Except PathError Report)}
    (h : Runs folder writer (earlier ++ (request, result) :: rest) last final) :
    ∃ before start next later, Runs folder writer earlier before start ∧
      start.writeToPath request.schema request.count before request.path =
        .ok (result, next, later) ∧
      Runs next later rest last final := by
  induction earlier generalizing folder writer with
  | nil =>
    cases h with
    | cons hcall hrest => exact ⟨folder, writer, _, _, .nil folder writer, hcall, hrest⟩
  | cons first earlier ih =>
    cases h with
    | cons hfirst hrest =>
      obtain ⟨before, start, next, later, hearlier, hcall, hlater⟩ := ih hrest
      exact ⟨before, start, next, later, .cons hfirst hearlier, hcall, hlater⟩

theorem exists_runs [Steady σ] (requests : List Request) (folder : Folder)
    (writer : Writer σ) :
    ∃ calls last final, calls.map Prod.fst = requests ∧ Runs folder writer calls last final := by
  induction requests generalizing folder writer with
  | nil => exact ⟨[], folder, writer, rfl, .nil folder writer⟩
  | cons request requests ih =>
    rcases hcall : writer.writeToPath request.schema request.count folder request.path with
      halt | ⟨result, next, later⟩
    · exact absurd hcall (writeToPath_ne_halt halt)
    · obtain ⟨calls, last, final, hrequests, hrest⟩ := ih next later
      refine ⟨(request, result) :: calls, last, final, ?_, .cons hcall hrest⟩
      rw [List.map_cons, hrequests]

theorem writeToPath_of_no_draft
    (h : (∀ place, folder.follow (Folder.parentPath path) ≠ .ok (.directory place)) ∨
      ¬folder.DraftFits path) :
    ∃ draft cause,
      writer.writeToPath schema count folder path =
        .ok (.error (.noDraft draft cause), folder, writer) := by
  rcases hdraft : folder.makeDraft path with cause | ⟨draft, prepared⟩
  · rw [writeToPath, hdraft]
    exact ⟨_, cause, rfl⟩
  · obtain ⟨hfits, _, place, hparent⟩ := Folder.of_makeDraft_eq_ok hdraft
    rcases h with hnowhere | hlong
    · exact absurd hparent (hnowhere place)
    · exact absurd hfits hlong

end Writer

section Atomic

variable {σ : Type} [Source σ]

/-- Whatever calls came before and whatever comes after, a call that fails leaves the folder as
it found it, and one that succeeds changes it only where its path puts a file, to the bytes that
writing into memory gives. If the path leads to a directory and no field is at fault the call
fails with all documents made, provided that the full path of the draft is not too long. If it
is, or if the parent of the path is no directory, nothing is drawn and nothing is counted. From
a steady source any calls come to an end. -/
theorem calls_replace_atomically :
    (∀ (folder last : Folder) (writer final : Writer σ) (request : Writer.Request)
      (result : Except PathError Report)
      (earlier rest : List (Writer.Request × Except PathError Report)),
      Writer.Runs folder writer (earlier ++ (request, result) :: rest) last final →
      ∃ before start after later,
        Writer.Runs folder writer earlier before start ∧
        start.writeToPath request.schema request.count before request.path =
          .ok (result, after, later) ∧
        Writer.Runs after later rest last final ∧
        (∀ error, result = .error error → after = before) ∧
        (∀ report, result = .ok report →
          ∃ sink place name,
            start.write request.schema request.count Sink.unlimited =
              .ok (.ok report, sink, later) ∧
            before.target request.path = .ok (place, name) ∧
            after = before.putFile ⟨place, name⟩ sink.received ∧
            after.read request.path = .ok sink.received ∧
            (∀ other, other ≠ Draft.key ⟨place, name⟩ →
              Entries.get? after.entries other = Entries.get? before.entries other)) ∧
        (∀ place, request.schema.errors = [] → before.DraftFits request.path →
          before.follow request.path = .ok (.directory place) →
          (∃ cause, result = .error (.notPlaced cause)) ∧
            ∃ documents,
              start.producer.documents request.schema request.count =
                .ok (.ok documents, later.producer) ∧
              documents.length = request.count ∧
              later.producer.produced = start.producer.produced + request.count)) ∧
    (∀ (folder : Folder) (writer : Writer σ) (schema : Schema) (count : Nat) (path : String),
      (∀ place, folder.follow (Folder.parentPath path) ≠ .ok (.directory place)) ∨
          ¬folder.DraftFits path →
      ∃ draft cause,
        writer.writeToPath schema count folder path =
          .ok (.error (.noDraft draft cause), folder, writer)) ∧
    (Steady σ → ∀ (requests : List Writer.Request) (folder : Folder) (writer : Writer σ),
      ∃ calls last final,
        calls.map Prod.fst = requests ∧ Writer.Runs folder writer calls last final) := by
  refine ⟨?_, ?_, ?_⟩
  · intro folder last writer final request result earlier rest h
    obtain ⟨before, start, after, later, hearlier, hcall, hrest⟩ := h.split
    have houtcome := Writer.outcome_of_writeToPath hcall
    refine ⟨before, start, after, later, hearlier, hcall, hrest, ?_, ?_, ?_⟩
    · rintro error rfl
      cases houtcome with
      | noDraft _ => rfl
      | stopped _ _ => rfl
      | notPlaced _ _ _ => rfl
    · rintro report rfl
      cases houtcome with
      | placed _ hwrite htarget =>
        refine ⟨_, _, _, hwrite, htarget, rfl, Folder.read_putFile htarget _, ?_⟩
        intro other hother
        exact Folder.get?_putFile_of_ne hother _
    · intro place hnone hfits hfollow
      obtain ⟨hcause, report, sink, hwrite⟩ :=
        houtcome.notPlaced_of_directory hnone hfits hfollow
      obtain ⟨documents, hmade, _⟩ :=
        Writer.documents_of_writeLines (Writer.lines_of_write_eq hwrite)
      obtain ⟨hlength, _, hproduced⟩ := Producer.of_documents_eq_ok hmade
      exact ⟨hcause, documents, hmade, hlength, hproduced⟩
  · intro folder writer schema count path h
    exact Writer.writeToPath_of_no_draft h
  · intro _ requests folder writer
    exact Writer.exists_runs requests folder writer

/-- Two documents are made and lost at a directory, and then a file is replaced through a path
that leaves the folder and comes back. A path from the top replaces it as well. -/
theorem calls_replace_atomically_directory :
    let folder : Folder :=
      ⟨["w"], [("w", .directory), ("w/d", .directory), ("w/out", .file "old".toUTF8)]⟩
    let schema : Schema := ⟨[("n", "getInt(1,3)")]⟩
    let writer : Writer Script := ⟨⟨Script.ofWords [5, 9], 0⟩, .text, false⟩
    let requests : List Writer.Request := [⟨schema, 2, "d"⟩, ⟨schema, 1, "../w/out"⟩]
    (∃ calls last final,
      calls.map Prod.fst = requests ∧ Writer.Runs folder writer calls last final ∧
      ∃ cause later,
        writer.writeToPath schema 2 folder "d" = .ok (.error (.notPlaced cause), folder, later) ∧
        later.producer.produced = 2) ∧
    ∃ report sink after later,
      writer.writeToPath schema 1 folder "/w/out" = .ok (.ok report, after, later) ∧
      writer.write schema 1 Sink.unlimited = .ok (.ok report, sink, later) ∧
      after.read "/w/out" = .ok sink.received ∧
      Entries.get? after.entries "w/d" = some .directory := by
  intro folder schema writer requests
  obtain ⟨hatomic, _, hends⟩ := calls_replace_atomically (σ := Script)
  constructor
  · obtain ⟨calls, last, final, hrequests, hruns⟩ := hends inferInstance requests folder writer
    refine ⟨calls, last, final, hrequests, hruns, ?_⟩
    cases calls with
    | nil => exact absurd hrequests.symm (List.cons_ne_nil _ _)
    | cons call rest =>
      obtain ⟨request, result⟩ := call
      have hrequest : request = ⟨schema, 2, "d"⟩ := (List.cons.inj hrequests).1
      subst hrequest
      obtain ⟨before, start, after, later, hearlier, hcall, _, hfailed, _, hdirectory⟩ :=
        hatomic folder last writer final _ result [] rest hruns
      cases hearlier
      have hnone : schema.errors = [] := by decide +kernel
      have hfits : folder.DraftFits "d" := by
        rw [Folder.DraftFits]
        decide
      have hfollow : folder.follow "d" = .ok (.directory ["w", "d"]) := by
        rw [Folder.follow_eq_ok_iff]
        exact ⟨by decide, by decide, rfl⟩
      obtain ⟨⟨cause, hcause⟩, documents, _, _, hproduced⟩ :=
        hdirectory ["w", "d"] hnone hfits hfollow
      have hafter := hfailed _ hcause
      rw [hcause, hafter] at hcall
      exact ⟨cause, later, hcall, hproduced⟩
  · obtain ⟨calls, last, final, hrequests, hruns⟩ :=
      hends inferInstance [⟨schema, 1, "/w/out"⟩] folder writer
    cases hruns with
    | nil => exact absurd hrequests.symm (List.cons_ne_nil _ _)
    | cons hcall hrest =>
      rename_i after later request result calls
      have hrequest : request = ⟨schema, 1, "/w/out"⟩ := (List.cons.inj hrequests).1
      subst hrequest
      obtain ⟨before, start, next, second, hearlier, hagain, _, _, hplaced, _⟩ :=
        hatomic folder last writer final _ result [] calls (.cons hcall hrest)
      cases hearlier
      have hok : (writer.writeToPath schema 1 folder "/w/out").toOption.map
          (fun made => made.1.isOk) = some true := by
        decide +kernel
      rw [hagain] at hok
      cases result with
      | error error => simp [Except.toOption, Except.isOk, Except.toBool] at hok
      | ok report =>
        obtain ⟨sink, place, name, hwrite, htarget, _, hread, hothers⟩ := hplaced report rfl
        have hleads : folder.target "/w/out" = .ok (["w"], "out") := by
          rw [Folder.target_eq_ok_iff]
          exact ⟨by decide, by decide, rfl⟩
        obtain ⟨rfl, rfl⟩ := Prod.mk.inj (Except.ok.inj (htarget.symm.trans hleads))
        exact ⟨report, sink, next, second, hagain, hwrite, hread, hothers "w/d" (by decide)⟩

/-- A path may be short enough to follow and still too long for a draft beside what it leads
to. Then a call fails at a directory with no document made. -/
theorem no_document_for_long_path :
    let folder : Folder := ⟨["tmp", ".tmp000000"], [("tmp", .directory),
      ("tmp/.tmp000000", .directory), ("tmp/.tmp000000/d", .directory),
      ("tmp/.tmp000000/e", .directory)]⟩
    let path := Folder.nameOf (List.replicate 2044 "." ++ ["d", "..", "e"])
    let schema : Schema := ⟨[("n", "getInt(1,3)")]⟩
    let writer : Writer ChaCha := ⟨Producer.ofSeed 7, .text, false⟩
    schema.errors = [] ∧ folder.follow path = .ok (.directory ["tmp", ".tmp000000", "e"]) ∧
      ∃ error later, writer.writeToPath schema 2 folder path = .ok (.error error, folder, later) ∧
        later.producer.produced ≠ writer.producer.produced + 2 := by
  intro folder path schema writer
  have hnone : schema.errors = [] := by decide +kernel
  have hslash : ∀ step ∈ ["d"] ++ [".."] ++ ["e"], '/' ∉ step.toList := by simp
  have hnull : ∀ step ∈ ["d", "..", "e"], '\x00' ∉ step.toList := by simp
  have hwalk : folder.walk (.directory folder.home) ["d", "..", "e"] =
      .ok (.directory ["tmp", ".tmp000000", "e"]) := rfl
  have hfollow : folder.follow path = .ok (.directory ["tmp", ".tmp000000", "e"]) :=
    Folder.follow_dots (by decide) (List.cons_ne_nil _ _) hslash hnull (by decide) hwalk
  have hlong : ¬folder.DraftFits path := by
    show ¬folder.DraftFits (Folder.nameOf
      (List.replicate 2044 "." ++ (["d"] ++ [".."] ++ ["e"])))
    exact Folder.not_draftFits_dots (by decide) hslash (by decide) (by decide) (by decide)
  obtain ⟨draft, cause, hcall⟩ : ∃ draft cause, writer.writeToPath schema 2 folder path =
      .ok (.error (.noDraft draft cause), folder, writer) :=
    Writer.writeToPath_of_no_draft (Or.inr hlong)
  refine ⟨hnone, hfollow, _, _, hcall, ?_⟩
  exact Nat.ne_of_lt (Nat.lt_add_of_pos_right Nat.zero_lt_two)

end Atomic

end Fixture
