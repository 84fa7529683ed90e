import Fixture.Producer
import Fixture.Proofs.Random.Steady

/-!
# The errors of a schema

Whether a field fails, and with what error, is read off its name and its invocation:
`FieldError.of?`. The errors of a schema are those of its fields in order, and both ways to go
through a schema report them and nothing else. `survey` collects them all, `fill` ends at the
first of them, and what the source gives has no part in it.
-/

namespace Fixture

/-- The error of a field whose invocation is no recipe. -/
def FieldError.of? (name invocation : String) : Option FieldError :=
  match Recipe.ofText invocation with
  | .error cause => some ⟨name, invocation, cause⟩
  | .ok _ => none

def fieldErrors (fields : Entries String) : List FieldError :=
  fields.filterMap fun field => FieldError.of? field.1 field.2

def Schema.errors (schema : Schema) : List FieldError :=
  fieldErrors schema.fields

@[simp] theorem fieldErrors_nil : fieldErrors [] = [] := rfl

theorem fieldErrors_cons_of_error {name invocation : String} {cause : InvocationError}
    (h : Recipe.ofText invocation = .error cause) (rest : Entries String) :
    fieldErrors ((name, invocation) :: rest) =
      ⟨name, invocation, cause⟩ :: fieldErrors rest := by
  simp [fieldErrors, FieldError.of?, h]

theorem fieldErrors_cons_of_ok {name invocation : String} {recipe : Recipe}
    (h : Recipe.ofText invocation = .ok recipe) (rest : Entries String) :
    fieldErrors ((name, invocation) :: rest) = fieldErrors rest := by
  simp [fieldErrors, FieldError.of?, h]

namespace Producer

open Draw

variable {σ : Type} [Source σ]

/-- The first field fails and nothing is drawn, or its recipe draws a value. -/
theorem fill_cons (name invocation : String) (rest : Entries String) (source : σ) :
    fill ((name, invocation) :: rest) source =
      match Recipe.ofText invocation with
      | .error cause => .ok (.error ⟨name, invocation, cause⟩, source)
      | .ok recipe =>
        match recipe.draw source with
        | .error halt => .error halt
        | .ok (value, source) =>
          match fill rest source with
          | .error halt => .error halt
          | .ok (.error error, source) => .ok (.error error, source)
          | .ok (.ok values, source) => .ok (.ok ((name, value) :: values), source) := by
  rw [fill, Recipe.invokeText_eq]
  cases Recipe.ofText invocation with
  | error cause => rfl
  | ok recipe =>
    dsimp only [Recipe.drawIfOk]
    rcases recipe.draw source with halt | ⟨value, later⟩
    · rfl
    · rfl

theorem survey_cons (name invocation : String) (rest : Entries String) (source : σ) :
    survey ((name, invocation) :: rest) source =
      match Recipe.ofText invocation with
      | .error cause =>
        match survey rest source with
        | .error halt => .error halt
        | .ok (errors, source) => .ok (⟨name, invocation, cause⟩ :: errors, source)
      | .ok recipe =>
        match recipe.draw source with
        | .error halt => .error halt
        | .ok (_, source) => survey rest source := by
  rw [survey, Recipe.invokeText_eq]
  cases Recipe.ofText invocation with
  | error cause => rfl
  | ok recipe =>
    dsimp only [Recipe.drawIfOk]
    rcases recipe.draw source with halt | ⟨value, later⟩
    · rfl
    · rfl

/-- What filling fields gives: a value for each of them if none fails, else the first error. -/
def Answers (fields : Entries String) : Except FieldError (List (String × Value)) → Prop
  | .ok values => fieldErrors fields = [] ∧ Entries.names values = Entries.names fields
  | .error error => (fieldErrors fields).head? = some error

/-- Collecting finds the errors of the fields, whatever is drawn for the others. -/
theorem yields_survey (fields : Entries String) :
    Yields (survey fields : Draw σ (List FieldError)) (· = fieldErrors fields) := by
  induction fields with
  | nil =>
    intro source
    exact Or.inr ⟨[], source, rfl, rfl⟩
  | cons field rest ih =>
    obtain ⟨name, invocation⟩ := field
    intro source
    rw [survey_cons]
    cases hread : Recipe.ofText invocation with
    | error cause =>
      rcases ih source with h | ⟨errors, later, rfl, h⟩
      · exact Or.inl (by simp only [h])
      · refine Or.inr ⟨_, later, (fieldErrors_cons_of_error hread rest).symm, ?_⟩
        simp only [h]
    | ok recipe =>
      rw [fieldErrors_cons_of_ok hread rest]
      rcases Recipe.yields_draw (Recipe.sound_of_ofText hread) source with
        h | ⟨value, later, _, h⟩
      · exact Or.inl (by simp only [h])
      · simp only [h]
        exact ih later

/-- Filling ends at the first of the errors of the fields, whatever is drawn before it. -/
theorem yields_fill (fields : Entries String) :
    Yields (fill fields : Draw σ (Except FieldError (List (String × Value))))
      (Answers fields) := by
  induction fields with
  | nil =>
    intro source
    exact Or.inr ⟨.ok [], source, ⟨rfl, rfl⟩, rfl⟩
  | cons field rest ih =>
    obtain ⟨name, invocation⟩ := field
    intro source
    rw [fill_cons]
    cases hread : Recipe.ofText invocation with
    | error cause =>
      refine Or.inr ⟨_, source, ?_, rfl⟩
      rw [Answers, fieldErrors_cons_of_error hread, List.head?_cons]
    | ok recipe =>
      rcases Recipe.yields_draw (Recipe.sound_of_ofText hread) source with
        h | ⟨value, drawn, _, h⟩
      · exact Or.inl (by simp only [h])
      · simp only [h]
        rcases ih drawn with hrest | ⟨result, later, hresult, hrest⟩
        · exact Or.inl (by simp only [hrest])
        · rw [hrest]
          cases result with
          | error error =>
            refine Or.inr ⟨.error error, later, ?_, rfl⟩
            rw [Answers, fieldErrors_cons_of_ok hread]
            exact hresult
          | ok values =>
            refine Or.inr ⟨.ok ((name, value) :: values), later, ?_, rfl⟩
            obtain ⟨hnone, hnames⟩ := hresult
            rw [Answers, fieldErrors_cons_of_ok hread]
            refine ⟨hnone, ?_⟩
            simp only [Entries.names, List.map_cons] at hnames ⊢
            rw [hnames]

theorem fill_cons_eq_ok {name invocation : String} {rest : Entries String} {source later : σ}
    {result : Except FieldError (List (String × Value))}
    (h : fill ((name, invocation) :: rest) source = .ok (result, later)) :
    (∃ cause, Recipe.ofText invocation = .error cause ∧
      result = .error ⟨name, invocation, cause⟩ ∧ later = source) ∨
    ∃ recipe value next others, Recipe.ofText invocation = .ok recipe ∧
      recipe.draw source = .ok (value, next) ∧ fill rest next = .ok (others, later) ∧
      result = others.map ((name, value) :: ·) := by
  rw [fill_cons] at h
  cases hread : Recipe.ofText invocation with
  | error cause =>
    simp only [hread, Except.ok.injEq, Prod.mk.injEq] at h
    exact .inl ⟨cause, rfl, h.1.symm, h.2.symm⟩
  | ok recipe =>
    right
    rcases hdraw : recipe.draw source with halt | ⟨value, next⟩
    · simp [hread, hdraw] at h
    · rcases hrest : fill rest next with halt | ⟨others, last⟩
      · simp [hread, hdraw, hrest] at h
      · refine ⟨recipe, value, next, others, rfl, hdraw, ?_⟩
        cases others <;>
          · simp only [hread, hdraw, hrest, Except.ok.injEq, Prod.mk.injEq] at h
            obtain ⟨rfl, rfl⟩ := h
            exact ⟨hrest, rfl⟩

section Steady

variable [Steady σ]

theorem ends_survey (fields : Entries String) :
    Ends (survey fields : Draw σ (List FieldError)) := by
  induction fields with
  | nil =>
    intro source h
    cases h
  | cons field rest ih =>
    intro source
    rw [survey_cons]
    cases Recipe.ofText field.2 with
    | error cause =>
      have hrest := ih source
      cases hsurvey : survey rest source with
      | error halt => simpa [hsurvey] using hrest
      | ok found => simp
    | ok recipe =>
      have hdraw := Recipe.ends_draw recipe source
      cases hdrawn : recipe.draw source with
      | error halt => simpa [hdrawn] using hdraw
      | ok drawn =>
        simp only [hdrawn]
        exact ih drawn.2

theorem ends_fill (fields : Entries String) :
    Ends (fill fields : Draw σ (Except FieldError (List (String × Value)))) := by
  induction fields with
  | nil =>
    intro source h
    cases h
  | cons field rest ih =>
    intro source
    rw [fill_cons]
    cases Recipe.ofText field.2 with
    | error cause =>
      intro h
      cases h
    | ok recipe =>
      have hdraw := Recipe.ends_draw recipe source
      cases hdrawn : recipe.draw source with
      | error halt => simpa [hdrawn] using hdraw
      | ok drawn =>
        have hrest := ih drawn.2
        simp only [hdrawn]
        rcases hfill : fill rest drawn.2 with halt | ⟨error | values, later⟩
        · simpa [hfill] using hrest
        · simp
        · simp

end Steady

theorem check_eq (producer : Producer σ) (schema : Schema) :
    producer.check schema = .error .endless ∨
      ∃ later, producer.check schema = .ok (schema.errors, ⟨later, producer.produced⟩) := by
  unfold check
  rcases yields_survey schema.fields producer.source with h | ⟨_, later, rfl, h⟩
  · exact Or.inl (by rw [h])
  · exact Or.inr ⟨later, by rw [h]; rfl⟩

theorem check_ne_endless [Steady σ] (producer : Producer σ) (schema : Schema) :
    producer.check schema ≠ .error .endless := by
  unfold check
  have h := ends_survey schema.fields producer.source
  cases hsurvey : survey schema.fields producer.source with
  | error halt => simpa [hsurvey] using h
  | ok found => simp

theorem document_of_errors_eq_nil {schema : Schema} (hnone : schema.errors = [])
    (producer : Producer σ) :
    producer.document schema = .error .endless ∨
      ∃ document later, document.names = schema.names ∧
        producer.document schema = .ok (.ok document, ⟨later, producer.produced + 1⟩) := by
  unfold document
  rcases yields_fill schema.fields producer.source with h | ⟨result, later, hresult, h⟩
  · exact Or.inl (by rw [h])
  · cases result with
    | error error =>
      rw [Answers, show fieldErrors schema.fields = [] from hnone] at hresult
      cases hresult
    | ok values => exact Or.inr ⟨⟨values⟩, later, hresult.2, by rw [h]⟩

theorem document_of_errors_eq_cons {schema : Schema} {error : FieldError}
    {rest : List FieldError} (hsome : schema.errors = error :: rest) (producer : Producer σ) :
    producer.document schema = .error .endless ∨
      ∃ later, producer.document schema = .ok (.error error, ⟨later, producer.produced⟩) := by
  have hfields : fieldErrors schema.fields = error :: rest := hsome
  unfold document
  rcases yields_fill schema.fields producer.source with h | ⟨result, later, hresult, h⟩
  · exact Or.inl (by rw [h])
  · cases result with
    | error found =>
      rw [Answers, hfields, List.head?_cons, Option.some.injEq] at hresult
      subst hresult
      exact Or.inr ⟨later, by rw [h]⟩
    | ok values =>
      rw [Answers, hfields] at hresult
      cases hresult.1

/-- Making a document gives one that is counted, if the schema has no errors, or its first
error. Otherwise no word is ever accepted. -/
theorem document_cases (producer : Producer σ) (schema : Schema) :
    producer.document schema = .error .endless ∨
    (∃ document later, schema.errors = [] ∧ document.names = schema.names ∧
      producer.document schema = .ok (.ok document, ⟨later, producer.produced + 1⟩)) ∨
    ∃ error later, schema.errors.head? = some error ∧
      producer.document schema = .ok (.error error, ⟨later, producer.produced⟩) := by
  cases herrors : schema.errors with
  | nil =>
    rcases document_of_errors_eq_nil herrors producer with h | ⟨document, later, hnames, h⟩
    · exact .inl h
    · exact .inr (.inl ⟨document, later, rfl, hnames, h⟩)
  | cons error rest =>
    rcases document_of_errors_eq_cons herrors producer with h | ⟨later, h⟩
    · exact .inl h
    · exact .inr (.inr ⟨error, later, rfl, h⟩)

section Document

variable {producer later : Producer σ} {schema : Schema}

theorem of_document_eq_ok {document : Document}
    (h : producer.document schema = .ok (.ok document, later)) :
    schema.errors = [] ∧ document.names = schema.names ∧
      later.produced = producer.produced + 1 := by
  rcases producer.document_cases schema with hmade | ⟨made, source, hnone, hnames, hmade⟩ |
    ⟨error, source, _, hmade⟩
  · simp [hmade] at h
  · rw [hmade] at h
    cases h
    exact ⟨hnone, hnames, rfl⟩
  · simp [hmade] at h

theorem of_document_eq_error {error : FieldError}
    (h : producer.document schema = .ok (.error error, later)) :
    schema.errors.head? = some error ∧ later.produced = producer.produced := by
  rcases producer.document_cases schema with hmade | ⟨made, source, _, _, hmade⟩ |
    ⟨found, source, hfirst, hmade⟩
  · simp [hmade] at h
  · simp [hmade] at h
  · rw [hmade] at h
    cases h
    exact ⟨hfirst, rfl⟩

theorem fill_of_document {result : Except FieldError Document}
    (h : producer.document schema = .ok (result, later)) :
    ∃ filled, fill schema.fields producer.source = .ok (filled, later.source) ∧
      result = filled.map Document.mk := by
  rw [Producer.document] at h
  rcases hfill : fill schema.fields producer.source with halt | ⟨error | entries, source⟩
  · simp [hfill] at h
  · simp only [hfill, Except.ok.injEq, Prod.mk.injEq] at h
    obtain ⟨rfl, rfl⟩ := h
    exact ⟨_, rfl, rfl⟩
  · simp only [hfill, Except.ok.injEq, Prod.mk.injEq] at h
    obtain ⟨rfl, rfl⟩ := h
    exact ⟨_, rfl, rfl⟩

end Document

theorem document_ne_endless [Steady σ] (producer : Producer σ) (schema : Schema) :
    producer.document schema ≠ .error .endless := by
  unfold document
  have h := ends_fill schema.fields producer.source
  rcases hfill : fill schema.fields producer.source with halt | ⟨error | values, later⟩
  · simpa [hfill] using h
  · simp
  · simp

theorem document_ne_halt [Steady σ] (producer : Producer σ) (schema : Schema) (halt : Halt) :
    producer.document schema ≠ .error halt := by
  have hendless := producer.document_ne_endless schema
  cases herrors : schema.errors with
  | nil =>
    rcases document_of_errors_eq_nil herrors producer with h | ⟨document, later, _, h⟩
    · exact absurd h hendless
    · rw [h]
      intro heq
      cases heq
  | cons error rest =>
    rcases document_of_errors_eq_cons herrors producer with h | ⟨later, h⟩
    · exact absurd h hendless
    · rw [h]
      intro heq
      cases heq

end Producer

end Fixture
