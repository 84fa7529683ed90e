import Fixture.Proofs.Producer.Batches

/-!
# Passes through a schema

Whatever a producer is used for, it goes through the fields of a schema once or more often. A
`Pass` says for one of these times how it went: the fields gave a document, or one of them
failed and ended it, or all were checked. Which recipes were drawn follows from the schema: of
a document those before the field that failed, of a check all that there are. `Reached` says
that a producer got from one state to another through passes: the source was drawn from by
these recipes and by nothing else, and the count grew by the documents.
-/

namespace Fixture

namespace Recipe

variable {σ : Type} [Source σ] {source next later : σ} {values more : List Value}

theorem mapM_draw_nil (source : σ) : ([] : List Recipe).mapM draw source = .ok ([], source) :=
  rfl

theorem mapM_draw_cons {recipe : Recipe} {value : Value} {rest : List Recipe}
    (h : recipe.draw source = .ok (value, next))
    (hrest : rest.mapM draw next = .ok (values, later)) :
    (recipe :: rest).mapM draw source = .ok (value :: values, later) := by
  rw [List.mapM_cons, Draw.bind_of_ok h, Draw.bind_of_ok hrest]
  rfl

theorem mapM_draw_append {first second : List Recipe}
    (h : first.mapM draw source = .ok (values, next))
    (hrest : second.mapM draw next = .ok (more, later)) :
    (first ++ second).mapM draw source = .ok (values ++ more, later) := by
  rw [List.mapM_append, Draw.bind_of_ok h, Draw.bind_of_ok hrest]
  rfl

end Recipe

def goodRecipes (fields : Entries String) : List Recipe :=
  fields.filterMap fun field => (Recipe.ofText field.2).toOption

/-- The recipes of the fields before the first that has none. -/
def leadingRecipes (fields : Entries String) : List Recipe :=
  goodRecipes (fields.takeWhile fun field => (Recipe.ofText field.2).isOk)

section Recipes

variable {name invocation : String} {rest : Entries String}

theorem goodRecipes_cons_of_error {cause : InvocationError}
    (h : Recipe.ofText invocation = .error cause) :
    goodRecipes ((name, invocation) :: rest) = goodRecipes rest := by
  simp [goodRecipes, h, Except.toOption]

theorem goodRecipes_cons_of_ok {recipe : Recipe} (h : Recipe.ofText invocation = .ok recipe) :
    goodRecipes ((name, invocation) :: rest) = recipe :: goodRecipes rest := by
  simp [goodRecipes, h, Except.toOption]

theorem leadingRecipes_cons_of_error {cause : InvocationError}
    (h : Recipe.ofText invocation = .error cause) :
    leadingRecipes ((name, invocation) :: rest) = [] := by
  simp [leadingRecipes, goodRecipes, h, Except.isOk, Except.toBool]

theorem leadingRecipes_cons_of_ok {recipe : Recipe} (h : Recipe.ofText invocation = .ok recipe) :
    leadingRecipes ((name, invocation) :: rest) = recipe :: leadingRecipes rest := by
  rw [leadingRecipes, leadingRecipes, List.takeWhile_cons_of_pos, goodRecipes_cons_of_ok h]
  rw [h]
  rfl

end Recipes

/-- Once through the fields of a schema: a document was made of the values, or a field failed
after these values, or all fields were checked, with these values for the good ones. -/
inductive Pass where
  | made (schema : Schema) (document : Document)
  | failed (schema : Schema) (error : FieldError) (values : List Value)
  | checked (schema : Schema) (errors : List FieldError) (values : List Value)

namespace Pass

def recipes : Pass → List Recipe
  | made schema _ => goodRecipes schema.fields
  | failed schema _ _ => leadingRecipes schema.fields
  | checked schema _ _ => goodRecipes schema.fields

def values : Pass → List Value
  | made _ document => document.fields.map Prod.snd
  | failed _ _ values => values
  | checked _ _ values => values

def completes : Pass → Bool
  | made _ _ => true
  | _ => false

/-- What is reported is what the schema says: no field of a document is at fault, the field
that failed is the first that is, and a check reports all that are. -/
def Valid : Pass → Prop
  | made schema document => schema.errors = [] ∧ document.names = schema.names
  | failed schema error _ => schema.errors.head? = some error
  | checked schema errors _ => errors = schema.errors

end Pass

namespace Producer

variable {σ : Type} [Source σ]

/-- The producer gets from one state to another through these passes. -/
structure Reached (producer : Producer σ) (passes : List Pass) (later : Producer σ) : Prop where
  valid : ∀ pass ∈ passes, pass.Valid
  drawn : (passes.flatMap Pass.recipes).mapM Recipe.draw producer.source =
    .ok (passes.flatMap Pass.values, later.source)
  counted : later.produced = producer.produced + passes.countP Pass.completes

theorem Reached.nil (producer : Producer σ) : Reached producer [] producer where
  valid := by simp
  drawn := Recipe.mapM_draw_nil producer.source
  counted := rfl

theorem Reached.append {producer next later : Producer σ} {passes more : List Pass}
    (h : Reached producer passes next) (hmore : Reached next more later) :
    Reached producer (passes ++ more) later where
  valid := List.forall_mem_append.2 ⟨h.valid, hmore.valid⟩
  drawn := by
    rw [List.flatMap_append, List.flatMap_append]
    exact Recipe.mapM_draw_append h.drawn hmore.drawn
  counted := by rw [hmore.counted, h.counted, List.countP_append, Nat.add_assoc]

theorem Reached.single {producer later : Producer σ} {pass : Pass} (hvalid : pass.Valid)
    (hdrawn : pass.recipes.mapM Recipe.draw producer.source = .ok (pass.values, later.source))
    (hcounted : later.produced = producer.produced + [pass].countP Pass.completes) :
    Reached producer [pass] later where
  valid := by simpa using hvalid
  drawn := by simpa using hdrawn
  counted := hcounted

section Fields

variable {fields : Entries String} {source later : σ}

theorem drawn_of_fill_ok {entries : List (String × Value)}
    (h : fill fields source = .ok (.ok entries, later)) :
    (goodRecipes fields).mapM Recipe.draw source = .ok (entries.map Prod.snd, later) := by
  induction fields generalizing source entries with
  | nil =>
    cases h
    exact Recipe.mapM_draw_nil later
  | cons field rest ih =>
    rcases fill_cons_eq_ok h with ⟨_, _, hresult, _⟩ |
      ⟨recipe, value, next, others, hread, hdraw, hrest, hresult⟩
    · cases hresult
    · cases others with
      | error error => cases hresult
      | ok more =>
        cases hresult
        rw [goodRecipes_cons_of_ok hread]
        exact Recipe.mapM_draw_cons hdraw (ih hrest)

theorem drawn_of_fill_error {error : FieldError}
    (h : fill fields source = .ok (.error error, later)) :
    ∃ values, (leadingRecipes fields).mapM Recipe.draw source = .ok (values, later) := by
  induction fields generalizing source error with
  | nil => cases h
  | cons field rest ih =>
    rcases fill_cons_eq_ok h with ⟨cause, hread, _, rfl⟩ |
      ⟨recipe, value, next, others, hread, hdraw, hrest, hresult⟩
    · rw [leadingRecipes_cons_of_error hread]
      exact ⟨[], Recipe.mapM_draw_nil later⟩
    · cases others with
      | ok more => cases hresult
      | error found =>
        obtain ⟨values, hvalues⟩ := ih hrest
        rw [leadingRecipes_cons_of_ok hread]
        exact ⟨value :: values, Recipe.mapM_draw_cons hdraw hvalues⟩

theorem drawn_of_survey {errors : List FieldError}
    (h : survey fields source = .ok (errors, later)) :
    ∃ values, (goodRecipes fields).mapM Recipe.draw source = .ok (values, later) := by
  induction fields generalizing source errors with
  | nil =>
    rw [survey, Except.ok.injEq, Prod.mk.injEq] at h
    obtain ⟨_, rfl⟩ := h
    exact ⟨[], Recipe.mapM_draw_nil source⟩
  | cons field rest ih =>
    obtain ⟨name, invocation⟩ := field
    rw [survey_cons] at h
    cases hread : Recipe.ofText invocation with
    | error cause =>
      rw [goodRecipes_cons_of_error hread]
      cases hrest : survey rest source with
      | error halt => simp [hread, hrest] at h
      | ok found =>
        simp only [hread, hrest, Except.ok.injEq, Prod.mk.injEq] at h
        obtain ⟨_, rfl⟩ := h
        exact ih hrest
    | ok recipe =>
      cases hdraw : recipe.draw source with
      | error halt => simp [hread, hdraw] at h
      | ok drawn =>
        simp only [hread, hdraw] at h
        obtain ⟨values, hvalues⟩ := ih h
        rw [goodRecipes_cons_of_ok hread]
        exact ⟨drawn.1 :: values, Recipe.mapM_draw_cons hdraw hvalues⟩

end Fields

section Halts

variable {producer : Producer σ} {schema : Schema} {halt : Halt}

theorem document_halt (h : producer.document schema = .error halt) :
    halt = .endless ∧ ¬Steady σ := by
  refine ⟨?_, fun _ => producer.document_ne_halt schema halt h⟩
  rcases producer.document_cases schema with hmade | ⟨_, _, _, _, hmade⟩ | ⟨_, _, _, hmade⟩
  · rw [hmade] at h
    exact (Except.error.inj h).symm
  · simp [hmade] at h
  · simp [hmade] at h

theorem check_halt (h : producer.check schema = .error halt) : halt = .endless ∧ ¬Steady σ := by
  rcases producer.check_eq schema with hcheck | ⟨later, hcheck⟩
  · rw [hcheck] at h
    cases h
    exact ⟨rfl, fun _ => producer.check_ne_endless schema hcheck⟩
  · rw [hcheck] at h
    cases h

end Halts

section Reach

variable {producer later : Producer σ} {schema : Schema}

theorem reached_of_document {document : Document}
    (h : producer.document schema = .ok (.ok document, later)) :
    Reached producer [.made schema document] later := by
  obtain ⟨hnone, hnames, hproduced⟩ := of_document_eq_ok h
  have hvalid : (Pass.made schema document).Valid := ⟨hnone, hnames⟩
  refine Reached.single hvalid ?_ hproduced
  obtain ⟨filled, hfill, hresult⟩ := fill_of_document h
  cases filled with
  | error error => cases hresult
  | ok entries =>
    cases hresult
    exact drawn_of_fill_ok hfill

theorem reached_of_document_error {error : FieldError}
    (h : producer.document schema = .ok (.error error, later)) :
    ∃ values, Reached producer [.failed schema error values] later := by
  obtain ⟨hfirst, hproduced⟩ := of_document_eq_error h
  obtain ⟨filled, hfill, hresult⟩ := fill_of_document h
  cases filled with
  | ok entries => cases hresult
  | error found =>
    obtain ⟨values, hvalues⟩ := drawn_of_fill_error hfill
    exact ⟨values, Reached.single hfirst hvalues hproduced⟩

theorem reached_of_check {errors : List FieldError}
    (h : producer.check schema = .ok (errors, later)) :
    ∃ values, Reached producer [.checked schema errors values] later := by
  obtain ⟨source, hcheck⟩ := (producer.check_eq schema).resolve_left (by simp [h])
  rw [hcheck, Except.ok.injEq, Prod.mk.injEq] at h
  obtain ⟨rfl, rfl⟩ := h
  rw [check] at hcheck
  cases hsurvey : survey schema.fields producer.source with
  | error halt => simp [hsurvey] at hcheck
  | ok found =>
    simp only [hsurvey, Except.ok.injEq, Prod.mk.injEq, mk.injEq] at hcheck
    obtain ⟨values, hvalues⟩ := drawn_of_survey hsurvey
    rw [hcheck.2.1] at hvalues
    exact ⟨values, Reached.single rfl hvalues rfl⟩

theorem reached_of_documents {count : Nat} {documents : List Document}
    (h : producer.documents schema count = .ok (.ok documents, later)) :
    Reached producer (documents.map (.made schema)) later := by
  induction count generalizing producer documents with
  | zero =>
    rw [documents_zero, Except.ok.injEq, Prod.mk.injEq, Except.ok.injEq] at h
    obtain ⟨rfl, rfl⟩ := h
    exact .nil producer
  | succ count ih =>
    obtain ⟨document, next, rest, rfl, hfirst, hrest⟩ := documents_succ_eq_ok h
    exact (reached_of_document hfirst).append (ih hrest)

end Reach

end Producer

namespace Batch

variable {σ : Type} [Source σ] {producer : Producer σ} {halt : Halt}

theorem next_halt {batch : Batch} (h : batch.next producer = .error halt) :
    halt = .endless ∧ ¬Steady σ := by
  obtain ⟨schema, remaining⟩ := batch
  cases remaining with
  | zero => cases h
  | succ remaining =>
    rcases hfirst : producer.document schema with other | ⟨error | document, next⟩
    · rw [next_of_halt hfirst] at h
      cases h
      exact Producer.document_halt hfirst
    · rw [next_of_error hfirst] at h
      cases h
    · rw [next_of_ok hfirst] at h
      cases h

theorem ask_halt {batch : Batch} {calls : Nat} (h : batch.ask producer calls = .error halt) :
    halt = .endless ∧ ¬Steady σ := by
  induction calls generalizing batch producer with
  | zero => cases h
  | succ calls ih =>
    rcases hnext : batch.next producer with other | ⟨item, rest, later⟩
    · rw [ask_succ_of_halt hnext] at h
      cases h
      exact next_halt hnext
    · rw [ask_succ_of_next hnext] at h
      rcases hrest : rest.ask later calls with other | ⟨items, last⟩
      · rw [hrest] at h
        cases h
        exact ih hrest
      · rw [hrest] at h
        cases h

end Batch

end Fixture
