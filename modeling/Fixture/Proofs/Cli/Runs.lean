import Fixture.Cli.Run
import Fixture.Proofs.Folder.Writable
import Fixture.Proofs.Output.History

/-!
# Making documents into a file or as output

With the same seed the same documents are made whether they go to a file or are output. The
file gets what is output otherwise, if its path names a file and keeps the limits of the system.
A command that fails leaves the folder as it is, and nothing of what it made before is output.
A check fails for the schemas for which no document is made, and says why.
-/

namespace Fixture

theorem exists_eq_ok_of_isOk {ε α : Type} {x : Except ε α} (h : x.isOk = true) :
    ∃ a, x = .ok a := by
  cases x with
  | error error => cases h
  | ok a => exact ⟨a, rfl⟩

namespace Writer

variable {σ : Type} [Source σ] {writer later : Writer σ} {schema : Schema} {count : Nat}
  {folder prepared : Folder} {path : String} {sink : Sink}

theorem writeToPath_of_write {draft : Draft} {report : Report} {place : Place} {name : String}
    (hdraft : folder.makeDraft path = .ok (draft, prepared))
    (hwrite : writer.write schema count Sink.unlimited = .ok (.ok report, sink, later))
    (htarget : folder.target path = .ok (place, name)) :
    writer.writeToPath schema count folder path =
      .ok (.ok report, folder.putFile ⟨place, name⟩ sink.received, later) := by
  have hdrafted := (Folder.of_makeDraft_eq_ok hdraft).2.1
  have hprepared := Folder.target_of_same hdrafted.same htarget
  rw [writeToPath, hdraft]
  simp only [hwrite, hdrafted.placeDraft_eq hprepared]

/-- Into a sink that never fails nothing goes wrong but a field, and then nothing went there. -/
theorem write_unlimited_eq_error {error : WriteError}
    (h : writer.write schema count Sink.unlimited = .ok (.error error, sink, later)) :
    (∃ found, error = .field found) ∧ sink = Sink.unlimited := by
  have hlines := lines_of_write_eq h
  cases error with
  | noRoom => exact absurd hlines (writeLines_ne_noRoom rfl)
  | field found => exact ⟨⟨found, rfl⟩, sink_eq_of_field_error hlines⟩

theorem write_unlimited_ok_iff
    (hends : writer.write schema count Sink.unlimited ≠ .error .endless) :
    (∃ report sink later,
      writer.write schema count Sink.unlimited = .ok (.ok report, sink, later)) ↔
      count = 0 ∨ schema.errors = [] := by
  constructor
  · rintro ⟨report, sink, later, hwrite⟩
    obtain ⟨documents, hmade, _⟩ := documents_of_writeLines (lines_of_write_eq hwrite)
    cases herrors : schema.errors with
    | nil => exact .inr rfl
    | cons error rest =>
      by_contra hnot
      have hcount : count ≠ 0 := fun hzero => hnot (.inl hzero)
      rcases Producer.documents_of_errors_eq_cons herrors writer.producer hcount with
        hfailed | ⟨last, hfailed⟩
      · rw [hfailed] at hmade
        cases hmade
      · rw [hfailed] at hmade
        cases hmade
  · rintro (rfl | hnone)
    · exact ⟨_, _, _, write_of_documents rfl (Producer.documents_zero _ _)⟩
    · rcases Producer.documents_of_errors_eq_nil hnone writer.producer count with
        hmade | ⟨documents, last, _, _, hmade⟩
      · exact absurd (write_of_documents_halt rfl hmade) hends
      · exact ⟨_, _, _, write_of_documents rfl hmade⟩

end Writer

namespace Cli

variable {folder after : Folder} {options : GenerateOptions} {seed : UInt64}
  {outcome : Outcome}

/-- The run comes to an end, and without a failure. -/
def Succeeds (run : Except Halt (Outcome × Folder)) : Prop :=
  ∃ outcome after, run = .ok (outcome, after) ∧ outcome.failure = none

theorem succeeds_iff (run : Except Halt (Outcome × Folder)) :
    Succeeds run ↔
      (match run with
        | .ok (outcome, _) => outcome.failure.isNone
        | .error _ => false) = true := by
  cases run with
  | error halt => simp [Succeeds]
  | ok result =>
    obtain ⟨outcome, after⟩ := result
    simp [Succeeds]

instance (run : Except Halt (Outcome × Folder)) : Decidable (Succeeds run) :=
  decidable_of_iff _ (succeeds_iff run).symm

/-- The ways in which making documents ends, each with what it has to say and the folder that
it leaves. -/
inductive Generated (folder : Folder) (options : GenerateOptions) (seed : UInt64) :
    Outcome → Folder → Prop
  | notLoaded {error : LoadError} (hload : Schema.ofFile folder options.schema = .error error) :
      Generated folder options seed (.notLoaded options.schema error) folder
  | printed {schema : Schema} {report : Report} {sink : Sink} {later : Writer ChaCha}
      (hload : Schema.ofFile folder options.schema = .ok schema)
      (houtput : options.output = none)
      (hwrite : (options.writer seed).write schema options.count.toNat Sink.unlimited =
        .ok (.ok report, sink, later)) :
      Generated folder options seed ⟨none, sink.received⟩ folder
  | notPrinted {schema : Schema} {error : WriteError} {later : Writer ChaCha}
      (hload : Schema.ofFile folder options.schema = .ok schema)
      (houtput : options.output = none)
      (hwrite : (options.writer seed).write schema options.count.toNat Sink.unlimited =
        .ok (.error error, Sink.unlimited, later)) :
      Generated folder options seed (.ofWriting (.error error) ByteArray.empty) folder
  | filed {schema : Schema} {path : String} {report : Report} {after : Folder}
      {later : Writer ChaCha} (hload : Schema.ofFile folder options.schema = .ok schema)
      (houtput : options.output = some path)
      (hwrite : (options.writer seed).writeToPath schema options.count.toNat folder path =
        .ok (.ok report, after, later)) :
      Generated folder options seed .silent after
  | notFiled {schema : Schema} {path : String} {error : PathError} {later : Writer ChaCha}
      (hload : Schema.ofFile folder options.schema = .ok schema)
      (houtput : options.output = some path)
      (hwrite : (options.writer seed).writeToPath schema options.count.toNat folder path =
        .ok (.error error, folder, later)) :
      Generated folder options seed (.ofWritingTo path (.error error)) folder

theorem generated_of_generate (h : generate folder options seed = .ok (outcome, after)) :
    Generated folder options seed outcome after := by
  unfold generate at h
  split at h
  · rename_i error hload
    cases h
    exact .notLoaded hload
  rename_i schema hload
  split at h
  · rename_i houtput
    split at h
    · cases h
    · rename_i result sink later hwrite
      cases h
      cases result with
      | ok report => exact .printed hload houtput hwrite
      | error error =>
        obtain ⟨_, rfl⟩ := Writer.write_unlimited_eq_error hwrite
        exact .notPrinted hload houtput hwrite
  · rename_i path houtput
    split at h
    · cases h
    · rename_i result next later hwrite
      cases h
      cases result with
      | ok report => exact .filed hload houtput hwrite
      | error error =>
        have houtcome := Writer.outcome_of_writeToPath hwrite
        cases houtcome with
        | noDraft _ => exact .notFiled hload houtput hwrite
        | stopped _ _ => exact .notFiled hload houtput hwrite
        | notPlaced _ _ _ => exact .notFiled hload houtput hwrite

theorem generate_halt {halt : Halt} (h : generate folder options seed = .error halt) :
    halt = .endless ∧ ¬Steady ChaCha := by
  unfold generate at h
  split at h
  · cases h
  split at h
  · split at h
    · rename_i other hwrite
      cases h
      exact Writer.write_halt hwrite
    · cases h
  · split at h
    · rename_i other hwrite
      cases h
      exact Writer.writeToPath_halt hwrite
    · cases h

theorem generate_eq_ok_or_endless (folder : Folder) (options : GenerateOptions)
    (seed : UInt64) :
    (∃ outcome after, generate folder options seed = .ok (outcome, after)) ∨
      generate folder options seed = .error .endless ∧ ¬Steady ChaCha := by
  cases h : generate folder options seed with
  | ok result => exact .inl ⟨_, _, rfl⟩
  | error halt =>
    obtain ⟨rfl, hsteady⟩ := generate_halt h
    exact .inr ⟨rfl, hsteady⟩

/-- A run that fails outputs nothing, not even the documents before the failure, and leaves the
folder as it is. -/
theorem unchanged_of_failure (h : generate folder options seed = .ok (outcome, after))
    (hfailed : outcome.failure ≠ none) : outcome.output = ByteArray.empty ∧ after = folder := by
  cases generated_of_generate h with
  | notLoaded _ => exact ⟨rfl, rfl⟩
  | notPrinted _ _ _ => exact ⟨rfl, rfl⟩
  | notFiled _ _ _ => exact ⟨rfl, rfl⟩
  | printed _ _ _ => exact absurd rfl hfailed
  | filed _ _ _ => exact absurd rfl hfailed

theorem unchanged_of_output_none (h : generate folder options seed = .ok (outcome, after))
    (houtput : options.output = none) : after = folder := by
  cases generated_of_generate h with
  | notLoaded _ => rfl
  | printed _ _ _ => rfl
  | notPrinted _ _ _ => rfl
  | notFiled _ _ _ => rfl
  | filed _ hsome _ =>
    rw [houtput] at hsome
    cases hsome

section Output

variable {schema : Schema} {report : Report} {later : Writer ChaCha}

theorem generate_of_printed {sink : Sink}
    (hload : Schema.ofFile folder options.schema = .ok schema) (houtput : options.output = none)
    (hwrite : (options.writer seed).write schema options.count.toNat Sink.unlimited =
      .ok (.ok report, sink, later)) :
    generate folder options seed = .ok (⟨none, sink.received⟩, folder) := by
  simp only [generate, hload, houtput, hwrite, Outcome.ofWriting]

theorem generate_of_filed {path : String}
    (hload : Schema.ofFile folder options.schema = .ok schema)
    (houtput : options.output = some path)
    (hwrite : (options.writer seed).writeToPath schema options.count.toNat folder path =
      .ok (.ok report, after, later)) :
    generate folder options seed = .ok (.silent, after) := by
  simp only [generate, hload, houtput, hwrite, Outcome.ofWritingTo]

theorem filed_of_printed {path name : String} {place : Place}
    (hnames : folder.NamesFile path place name) (hlimits : Folder.KeepsLimits path name)
    (hfits : folder.DraftFits path)
    (h : generate folder { options with output := none } seed = .ok (outcome, after))
    (hok : outcome.failure = none) :
    generate folder { options with output := some path } seed =
      .ok (.silent, folder.putFile ⟨place, name⟩ outcome.output) := by
  cases generated_of_generate h with
  | notLoaded _ => cases hok
  | notPrinted _ _ _ => cases hok
  | filed _ houtput _ => cases houtput
  | notFiled _ houtput _ => cases houtput
  | printed hload _ hwrite =>
    obtain ⟨draft, prepared, hdraft⟩ := hnames.exists_makeDraft_eq hlimits.noNull hfits
    exact generate_of_filed hload rfl
      (Writer.writeToPath_of_write hdraft hwrite (hnames.target_eq hlimits))

theorem printed_of_filed {path : String}
    (h : Succeeds (generate folder { options with output := some path } seed)) :
    Succeeds (generate folder { options with output := none } seed) ∧
      folder.DraftFits path ∧ ∃ place name, folder.target path = .ok (place, name) := by
  obtain ⟨outcome, after, h, hok⟩ := h
  cases generated_of_generate h with
  | notLoaded _ => cases hok
  | printed _ houtput _ => cases houtput
  | notPrinted _ houtput _ => cases houtput
  | notFiled _ _ _ => cases hok
  | filed hload houtput hfiled =>
    cases houtput
    cases Writer.outcome_of_writeToPath hfiled with
    | placed hdraft hwrite htarget =>
      exact ⟨⟨_, folder, generate_of_printed hload rfl hwrite, rfl⟩,
        (Folder.of_makeDraft_eq_ok hdraft).1, _, _, htarget⟩

/-- A path that names a file gets what is output without it, exactly within the limits. -/
theorem succeeds_filing_iff {path name : String} {place : Place}
    (hnames : folder.NamesFile path place name) :
    Succeeds (generate folder { options with output := some path } seed) ↔
      Succeeds (generate folder { options with output := none } seed) ∧
        Folder.KeepsLimits path name ∧ folder.DraftFits path := by
  constructor
  · intro h
    obtain ⟨hprinted, hfits, reached, last, htarget⟩ := printed_of_filed h
    exact ⟨hprinted, hnames.keepsLimits htarget, hfits⟩
  · rintro ⟨⟨outcome, after, hprinted, hok⟩, hlimits, hfits⟩
    exact ⟨_, _, filed_of_printed hnames hlimits hfits hprinted hok, rfl⟩

theorem filed_eq_printed {path name : String} {place : Place} {printed filed : Outcome}
    {same : Folder} (hnames : folder.NamesFile path place name)
    (hprinted : generate folder { options with output := none } seed = .ok (printed, same))
    (hfiled : generate folder { options with output := some path } seed = .ok (filed, after))
    (hok : filed.failure = none) :
    Folder.KeepsLimits path name ∧ filed = .silent ∧
      after = folder.putFile ⟨place, name⟩ printed.output := by
  obtain ⟨⟨outcome, reached, hagain, hnone⟩, hlimits, hfits⟩ :=
    (succeeds_filing_iff hnames).1 ⟨_, _, hfiled, hok⟩
  rw [hprinted] at hagain
  cases hagain
  rw [filed_of_printed hnames hlimits hfits hprinted hnone] at hfiled
  cases hfiled
  exact ⟨hlimits, rfl, rfl⟩

/-- Documents are output if no field is at fault or none are asked for. -/
theorem succeeds_printing_iff (hload : Schema.ofFile folder options.schema = .ok schema)
    (houtput : options.output = none) (hends : generate folder options seed ≠ .error .endless) :
    Succeeds (generate folder options seed) ↔
      options.count.toNat = 0 ∨ schema.errors = [] := by
  have hwrite : (options.writer seed).write schema options.count.toNat Sink.unlimited ≠
      .error .endless := by
    intro hwrite
    apply hends
    simp only [generate, hload, houtput, hwrite]
  rw [← Writer.write_unlimited_ok_iff hwrite]
  constructor
  · rintro ⟨outcome, after, h, hok⟩
    cases generated_of_generate h with
    | notLoaded _ => cases hok
    | notPrinted _ _ _ => cases hok
    | notFiled _ _ _ => cases hok
    | filed _ hsome _ =>
      rw [houtput] at hsome
      cases hsome
    | printed hagain _ hmade =>
      rw [hload] at hagain
      cases hagain
      exact ⟨_, _, _, hmade⟩
  · rintro ⟨report, sink, later, hmade⟩
    exact ⟨_, _, generate_of_printed hload houtput hmade, rfl⟩

end Output

section Check

variable {path : String} {schema : Schema}

theorem check_of_schema (hload : Schema.ofFile folder path = .ok schema) :
    check folder path = .error .endless ∨
      check folder path = .ok (.ofCheck path schema schema.errors) := by
  rw [check, hload]
  rcases schema.check_eq with h | h
  · exact .inl (by simp only [h])
  · exact .inr (by simp only [h])

theorem check_halt {halt : Halt} (h : check folder path = .error halt) :
    halt = .endless ∧ ¬Steady ChaCha := by
  unfold check at h
  split at h
  · cases h
  · rename_i schema hload
    split at h
    · rename_i other hcheck
      cases h
      rw [Schema.check] at hcheck
      split at hcheck
      · rename_i again hproducer
        cases hcheck
        exact Producer.check_halt hproducer
      · cases hcheck
    · cases h

theorem check_eq_ok_or_endless (folder : Folder) (path : String) :
    (∃ outcome, check folder path = .ok outcome) ∨
      check folder path = .error .endless ∧ ¬Steady ChaCha := by
  cases h : check folder path with
  | ok outcome => exact .inl ⟨_, rfl⟩
  | error halt =>
    obtain ⟨rfl, hsteady⟩ := check_halt h
    exact .inr ⟨rfl, hsteady⟩

theorem failure_ofCheck_eq_none_iff (path : String) (schema : Schema)
    (errors : List FieldError) :
    (Outcome.ofCheck path schema errors).failure = none ↔ errors = [] := by
  cases errors <;> simp [Outcome.ofCheck]

theorem output_ofCheck (path : String) (schema : Schema) {errors : List FieldError}
    (h : errors ≠ []) :
    (Outcome.ofCheck path schema errors).output =
      (String.join (errors.map fun error => error.message ++ "\n")).toUTF8 := by
  cases errors with
  | nil => exact absurd rfl h
  | cons error rest => rfl

/-- A check fails for the schemas for which no document is output, whatever the seed is. -/
theorem failure_ofCheck_eq_none_iff_succeeds
    (hload : Schema.ofFile folder options.schema = .ok schema) (houtput : options.output = none)
    (hcount : options.count ≠ 0) (hends : generate folder options seed ≠ .error .endless) :
    (Outcome.ofCheck path schema schema.errors).failure = none ↔
      Succeeds (generate folder options seed) := by
  have hsome : options.count.toNat ≠ 0 := fun hzero => hcount (UInt64.toNat_inj.1 hzero)
  rw [failure_ofCheck_eq_none_iff, succeeds_printing_iff hload houtput hends]
  exact ⟨.inr, fun h => h.resolve_left hsome⟩

end Check

/-- A path that names a file gets what is output without it, and that exactly within the limits
of the system. Every other entry of the folder stays, and so does the whole folder after a
failure, with nothing output. A check leaves the folder as it is, finds fault with the schemas
for which no document is output, and prints the errors of their fields. -/
theorem files_and_output_agree :
    (∀ (folder : Folder) (options : GenerateOptions) (seed : UInt64) (path : String)
      (place : Place) (name : String), folder.NamesFile path place name →
      (Succeeds (generate folder { options with output := some path } seed) ↔
        Succeeds (generate folder { options with output := none } seed) ∧
          Folder.KeepsLimits path name ∧ folder.DraftFits path) ∧
      ∀ printed filed same after,
        generate folder { options with output := none } seed = .ok (printed, same) →
        generate folder { options with output := some path } seed = .ok (filed, after) →
        filed.failure = none →
        filed.output = ByteArray.empty ∧
          after = folder.putFile ⟨place, name⟩ printed.output ∧
          after.read path = .ok printed.output ∧
          ∀ other, other ≠ Draft.key ⟨place, name⟩ →
            Entries.get? after.entries other = Entries.get? folder.entries other) ∧
    (∀ (folder : Folder) (options : GenerateOptions) (seed : UInt64) (outcome : Outcome)
      (after : Folder), generate folder options seed = .ok (outcome, after) →
      (outcome.failure ≠ none → outcome.output = ByteArray.empty ∧ after = folder) ∧
      (options.output = none → after = folder)) ∧
    (∀ (folder : Folder) (anySeed : UInt64) (path : String) (outcome : Outcome)
      (after : Folder), Command.run folder anySeed (.check path) = .ok (outcome, after) →
      check folder path = .ok outcome ∧ after = folder) ∧
    (∀ (folder : Folder) (path : String) (schema : Schema),
      Schema.ofFile folder path = .ok schema → check folder path ≠ .error .endless →
      ∃ outcome, check folder path = .ok outcome ∧
        (∀ (options : GenerateOptions) (seed : UInt64), options.schema = path →
          options.output = none → options.count ≠ 0 →
          generate folder options seed ≠ .error .endless →
          (outcome.failure = none ↔ Succeeds (generate folder options seed))) ∧
        (outcome.failure ≠ none → outcome.output =
          (String.join (schema.errors.map fun error =>
            "field '" ++ error.field ++ "' (invocation '" ++ error.invocation ++ "')" ++
              ": " ++ error.cause.message ++ "\n")).toUTF8)) ∧
    ∀ (folder : Folder) (options : GenerateOptions) (seed : UInt64) (path : String),
      ((∃ outcome after, generate folder options seed = .ok (outcome, after)) ∨
        generate folder options seed = .error .endless ∧ ¬Steady ChaCha) ∧
      ((∃ outcome, check folder path = .ok outcome) ∨
        check folder path = .error .endless ∧ ¬Steady ChaCha) := by
  refine ⟨?_, ?_, ?_, ?_, ?_⟩
  · intro folder options seed path place name hnames
    refine ⟨succeeds_filing_iff hnames, ?_⟩
    intro printed filed same after hprinted hfiled hok
    obtain ⟨hlimits, rfl, rfl⟩ := filed_eq_printed hnames hprinted hfiled hok
    exact ⟨rfl, rfl, Folder.read_putFile (hnames.target_eq hlimits) _,
      fun other hother => Folder.get?_putFile_of_ne hother _⟩
  · intro folder options seed outcome after h
    exact ⟨unchanged_of_failure h, unchanged_of_output_none h⟩
  · intro folder anySeed path outcome after h
    simp only [Command.run] at h
    split at h
    · cases h
    · rename_i found hcheck
      cases h
      exact ⟨hcheck, rfl⟩
  · intro folder path schema hload hends
    refine ⟨_, (check_of_schema hload).resolve_left hends, ?_, ?_⟩
    · rintro options seed rfl houtput hcount hends
      exact failure_ofCheck_eq_none_iff_succeeds hload houtput hcount hends
    · intro hfailed
      exact output_ofCheck path schema fun hnone =>
        hfailed ((failure_ofCheck_eq_none_iff path schema _).2 hnone)
  · intro folder options seed path
    exact ⟨generate_eq_ok_or_endless folder options seed, check_eq_ok_or_endless folder path⟩

/-- A document replaces the schema that it is made from, through a path from the top, and a
schema with a bad field before a good one keeps its file and is found at fault. -/
theorem files_and_output_agree_own_schema :
    let folder : Folder :=
      ⟨["w"], [("w", .directory),
        ("w/bad", .file "\x7b\"m\":\"getFoo()\",\"n\":\"getInt(1,1)\"\x7d".toUTF8),
        ("w/good", .file "\x7b\"n\":\"getInt(1,1)\"\x7d".toUTF8)]⟩
    let good : GenerateOptions := ⟨"good", some 7, 1, none, false, false⟩
    let bad : GenerateOptions := ⟨"bad", some 7, 1, none, false, false⟩
    (∃ (printed filed : Outcome) (after : Folder),
      generate folder good 7 = .ok (printed, folder) ∧
      generate folder { good with output := some "/w/good" } 7 = .ok (filed, after) ∧
      after.read "/w/good" = .ok printed.output ∧
      Entries.get? after.entries "w/bad" = Entries.get? folder.entries "w/bad") ∧
    (∃ outcome, generate folder { bad with output := some "bad" } 7 = .ok (outcome, folder) ∧
      outcome.output = ByteArray.empty) ∧
    ∃ (schema : Schema) (outcome : Outcome),
      Command.run folder 0 (.check "bad") = .ok (outcome, folder) ∧
      check folder "bad" = .ok outcome ∧ ¬Succeeds (generate folder bad 7) ∧
      outcome.output = (String.join (schema.errors.map fun error =>
        "field '" ++ error.field ++ "' (invocation '" ++ error.invocation ++ "')" ++
          ": " ++ error.cause.message ++ "\n")).toUTF8 := by
  intro folder good bad
  obtain ⟨hagree, hfails, hcommand, hchecks, _⟩ := files_and_output_agree
  have hnames : folder.NamesFile "/w/good" ["w"] "good" := by
    refine ⟨⟨["", "w"], rfl, rfl⟩, by decide, ?_⟩
    intro reached hfollow
    obtain ⟨_, _, hwalk⟩ := (Folder.follow_eq_ok_iff _ _ _).1 hfollow
    cases hwalk
  have hlimits : Folder.KeepsLimits "/w/good" "good" := ⟨by decide, by decide, by decide⟩
  have hfits : folder.DraftFits "/w/good" := by
    rw [Folder.DraftFits]
    decide
  refine ⟨?_, ?_, ?_⟩
  · obtain ⟨hfiling, hsame⟩ := hagree folder good 7 "/w/good" ["w"] "good" hnames
    have hprints : Succeeds (generate folder { good with output := none } 7) := by
      decide +kernel
    obtain ⟨filed, after, hfiled, hok⟩ := hfiling.2 ⟨hprints, hlimits, hfits⟩
    obtain ⟨printed, same, hprinted, _⟩ := hprints
    obtain ⟨_, _, hread, hothers⟩ := hsame printed filed same after hprinted hfiled hok
    have hkey : "w/bad" ≠ Draft.key ⟨["w"], "good"⟩ := by decide
    obtain rfl := (hfails folder good 7 printed same hprinted).2 rfl
    exact ⟨printed, filed, after, hprinted, hfiled, hread, hothers "w/bad" hkey⟩
  · have hends : (generate folder { bad with output := some "bad" } 7).isOk = true := by
      decide +kernel
    have hnot : ¬Succeeds (generate folder { bad with output := some "bad" } 7) := by
      decide +kernel
    obtain ⟨⟨outcome, after⟩, h⟩ := exists_eq_ok_of_isOk hends
    have hfailed : outcome.failure ≠ none := fun hnone => hnot ⟨_, _, h, hnone⟩
    obtain ⟨hempty, rfl⟩ := (hfails folder _ 7 outcome after h).1 hfailed
    exact ⟨outcome, h, hempty⟩
  · have hloads : (Schema.ofFile folder "bad").isOk = true := by decide +kernel
    have hcheckEnds : (check folder "bad").isOk = true := by decide +kernel
    have hrunEnds : (generate folder bad 7).isOk = true := by decide +kernel
    have hnot : ¬Succeeds (generate folder bad 7) := by decide +kernel
    obtain ⟨schema, hload⟩ := exists_eq_ok_of_isOk hloads
    obtain ⟨found, hfound⟩ := exists_eq_ok_of_isOk hcheckEnds
    obtain ⟨made, hmade⟩ := exists_eq_ok_of_isOk hrunEnds
    obtain ⟨outcome, hcheck, hiff, htext⟩ :=
      hchecks folder "bad" schema hload (by simp [hfound])
    have hfailed : outcome.failure ≠ none := fun hnone =>
      hnot ((hiff bad 7 rfl rfl (by decide) (by simp [hmade])).1 hnone)
    have hrun : Command.run folder 0 (.check "bad") = .ok (outcome, folder) := by
      simp only [Command.run, hcheck]
    exact ⟨schema, outcome, hrun, (hcommand folder 0 "bad" outcome folder hrun).1, hnot,
      htext hfailed⟩

/-- A file can be put where its path leads, and yet a draft beside it has too long a full path.
Then the documents that are output without the path make no file. -/
theorem no_file_beside_long_path :
    let folder : Folder :=
      ⟨["tmp", ".tmp000000"], [("tmp", .directory), ("tmp/.tmp000000", .directory),
        ("tmp/.tmp000000/d", .directory),
        ("tmp/.tmp000000/s.json", .file "\x7b\"n\":\"getInt(1,1)\"\x7d".toUTF8)]⟩
    let options : GenerateOptions := ⟨"s.json", some 7, 1, none, false, false⟩
    let path := Folder.nameOf (List.replicate 2044 "." ++ ["d", "out"])
    folder.NamesFile path ["tmp", ".tmp000000", "d"] "out" ∧
      folder.target path = .ok (["tmp", ".tmp000000", "d"], "out") ∧
      Succeeds (generate folder { options with output := none } 7) ∧
      ¬Succeeds (generate folder { options with output := some path } 7) := by
  intro folder options path
  have hslash : ∀ step ∈ ["d", "out"], '/' ∉ step.toList := by simp
  have hnull : ∀ step ∈ ["d", "out"], '\x00' ∉ step.toList := by simp
  have hbytes := Folder.utf8ByteSize_dots 2044 (List.cons_ne_nil "d" ["out"])
  have hlong : ¬folder.DraftFits
      (Folder.nameOf (List.replicate 2044 "." ++ ([] ++ ["d"] ++ ["out"]))) :=
    Folder.not_draftFits_dots (by decide) hslash (by decide) (by decide) (by decide)
  have hsteps : Folder.stepsOf path = List.replicate 2044 "." ++ ["d", "out"] :=
    Folder.stepsOf_dots 2044 (List.cons_ne_nil _ _) hslash
  have hnames : folder.NamesFile path ["tmp", ".tmp000000", "d"] "out" := by
    refine ⟨⟨List.replicate 2044 "." ++ ["d"], ?_, ?_⟩, by decide, ?_⟩
    · rw [hsteps, List.append_assoc]
      rfl
    · exact Folder.walk_origin_dots folder (by decide) _ ["d"]
    · intro reached hfollow
      obtain ⟨_, _, hwalk⟩ := (Folder.follow_eq_ok_iff _ _ _).1 hfollow
      rw [hsteps, Folder.walk_origin_dots folder (by decide)] at hwalk
      cases hwalk
  have hlimits : Folder.KeepsLimits path "out" := by
    refine ⟨Folder.null_not_mem_dots 2044 hnull, by decide, ?_⟩
    rw [hbytes]
    decide
  have hprints : Succeeds (generate folder { options with output := none } 7) := by
    decide +kernel
  refine ⟨hnames, hnames.target_eq hlimits, hprints, ?_⟩
  intro hfiled
  exact hlong ((succeeds_filing_iff hnames).1 hfiled).2.2

end Cli

end Fixture
