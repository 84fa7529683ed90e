import Fixture.Proofs.Invocation.Answers
import Fixture.Proofs.Producer.Agreement

/-!
# Bad fields draw nothing

An invocation that fails leaves the source as it is. So a field that fails does not disturb the
others: a check draws what a document of the good fields draws, and a document that fails at
its first bad field has drawn what a document of the fields before that one draws.
-/

namespace Fixture

def withoutErrors (fields : Entries String) (errors : List FieldError) : Entries String :=
  fields.filter fun field => ∀ error ∈ errors, (error.field, error.invocation) ≠ field

def Schema.without (schema : Schema) (errors : List FieldError) : Schema :=
  ⟨withoutErrors schema.fields errors⟩

def goodFields (fields : Entries String) : Entries String :=
  fields.filter fun field => (Recipe.ofText field.2).isOk

section Good

variable {name invocation : String}

theorem goodFields_cons_of_error {cause : InvocationError}
    (h : Recipe.ofText invocation = .error cause) (rest : Entries String) :
    goodFields ((name, invocation) :: rest) = goodFields rest := by
  rw [goodFields, List.filter_cons_of_neg]
  · rfl
  · simp [h, Except.isOk, Except.toBool]

theorem goodFields_cons_of_ok {recipe : Recipe} (h : Recipe.ofText invocation = .ok recipe)
    (rest : Entries String) :
    goodFields ((name, invocation) :: rest) = (name, invocation) :: goodFields rest := by
  rw [goodFields, List.filter_cons_of_pos]
  · rfl
  · simp [h, Except.isOk, Except.toBool]

theorem fieldErrors_goodFields (fields : Entries String) :
    fieldErrors (goodFields fields) = [] := by
  induction fields with
  | nil => rfl
  | cons field rest ih =>
    cases hread : Recipe.ofText field.2 with
    | error cause => rw [goodFields_cons_of_error hread, ih]
    | ok recipe => rw [goodFields_cons_of_ok hread, fieldErrors_cons_of_ok hread, ih]

theorem named_by_fieldErrors_iff {fields : Entries String} {field : String × String}
    (hfield : field ∈ fields) :
    (∃ error ∈ fieldErrors fields, (error.field, error.invocation) = field) ↔
      (Recipe.ofText field.2).isOk = false := by
  simp only [fieldErrors, List.mem_filterMap]
  constructor
  · rintro ⟨error, ⟨other, _, herror⟩, rfl⟩
    rw [FieldError.of?] at herror
    cases hread : Recipe.ofText other.2 with
    | ok recipe => simp [hread] at herror
    | error cause =>
      simp only [hread, Option.some.injEq] at herror
      rw [← herror]
      simp [hread, Except.isOk, Except.toBool]
  · intro hbad
    cases hread : Recipe.ofText field.2 with
    | ok recipe => simp [hread, Except.isOk, Except.toBool] at hbad
    | error cause =>
      refine ⟨⟨field.1, field.2, cause⟩, ⟨field, hfield, ?_⟩, rfl⟩
      simp only [FieldError.of?, hread]

theorem withoutErrors_fieldErrors (fields : Entries String) :
    withoutErrors fields (fieldErrors fields) = goodFields fields := by
  apply List.filter_congr
  intro field hfield
  have hnamed := named_by_fieldErrors_iff hfield
  rw [Bool.eq_iff_iff, decide_eq_true_eq, ← Bool.not_eq_false, ← hnamed]
  simp only [not_exists, not_and, ne_eq]

end Good

theorem Recipe.invokeText_eq_error_iff {σ : Type} [Source σ] {text : String}
    {error : InvocationError} {source later : σ} :
    Recipe.invokeText text source = .ok (.error error, later) ↔
      Recipe.ofText text = .error error ∧ later = source := by
  rw [Recipe.invokeText, Recipe.ofText]
  cases Invocation.read text with
  | error cause => simp only [Except.ok.injEq, Prod.mk.injEq, Except.error.injEq, eq_comm]
  | ok call => exact Invocation.invoke_eq_error_iff

namespace Producer

variable {σ : Type} [Source σ] {producer later : Producer σ} {schema : Schema}

/-- A check draws as filling the good fields does. -/
theorem survey_eq_fill_goodFields (fields : Entries String) (source : σ) :
    survey fields source =
      match fill (goodFields fields) source with
      | .error halt => .error halt
      | .ok (_, later) => .ok (fieldErrors fields, later) := by
  induction fields generalizing source with
  | nil => rfl
  | cons field rest ih =>
    obtain ⟨name, invocation⟩ := field
    rw [survey_cons]
    -- a bad field is left out on both sides, and a good one draws the same on both
    cases hread : Recipe.ofText invocation with
    | error cause =>
      rw [goodFields_cons_of_error hread, fieldErrors_cons_of_error hread]
      simp only [ih]
      rcases fill (goodFields rest) source with halt | ⟨filled, last⟩ <;> rfl
    | ok recipe =>
      rw [goodFields_cons_of_ok hread, fieldErrors_cons_of_ok hread, fill_cons, hread]
      simp only
      rcases recipe.draw source with halt | ⟨value, next⟩
      · rfl
      · simp only [ih]
        rcases fill (goodFields rest) next with halt | ⟨error | values, last⟩ <;> rfl

theorem check_eq_document_without (producer : Producer σ) (schema : Schema) :
    producer.check schema = .error .endless ∧
        producer.document (schema.without schema.errors) = .error .endless ∨
      ∃ source document,
        producer.check schema = .ok (schema.errors, ⟨source, producer.produced⟩) ∧
        producer.document (schema.without schema.errors) =
          .ok (.ok document, ⟨source, producer.produced + 1⟩) := by
  have hfields : (schema.without schema.errors).fields = goodFields schema.fields :=
    withoutErrors_fieldErrors schema.fields
  have hsurvey := survey_eq_fill_goodFields schema.fields producer.source
  unfold check document
  rw [hsurvey, hfields]
  rcases yields_fill (goodFields schema.fields) producer.source with
    h | ⟨filled, source, hfilled, h⟩
  · exact .inl ⟨by rw [h], by rw [h]⟩
  · cases filled with
    | error error =>
      rw [Answers, fieldErrors_goodFields] at hfilled
      cases hfilled
    | ok values => exact .inr ⟨source, ⟨values⟩, by rw [h]; rfl, by rw [h]⟩

/-- Filling that ends at a field has filled the fields before it. -/
theorem fill_eq_error {fields : Entries String} {source last : σ} {error : FieldError}
    (h : fill fields source = .ok (.error error, last)) :
    ∃ before rest values, fields = before ++ (error.field, error.invocation) :: rest ∧
      Recipe.ofText error.invocation = .error error.cause ∧
      fill before source = .ok (.ok values, last) := by
  induction fields generalizing source with
  | nil => cases h
  | cons field fields ih =>
    rcases fill_cons_eq_ok h with ⟨cause, hread, hresult, rfl⟩ |
      ⟨recipe, value, next, others, hread, hdraw, hrest, hresult⟩
    · cases hresult
      exact ⟨[], fields, [], rfl, hread, fill_nil last⟩
    · cases others with
      | ok more => cases hresult
      | error found =>
        cases hresult
        obtain ⟨before, rest, values, rfl, hbad, hbefore⟩ := ih hrest
        refine ⟨field :: before, rest, (field.1, value) :: values, rfl, hbad, ?_⟩
        rw [fill_cons, hread]
        simp only [hdraw, hbefore]

theorem document_eq_error {error : FieldError}
    (h : producer.document schema = .ok (.error error, later)) :
    ∃ before rest document, schema.fields = before ++ (error.field, error.invocation) :: rest ∧
      Recipe.ofText error.invocation = .error error.cause ∧
      producer.document ⟨before⟩ = .ok (.ok document, ⟨later.source, producer.produced + 1⟩) := by
  obtain ⟨filled, hfill, hresult⟩ := fill_of_document h
  cases filled with
  | ok values => cases hresult
  | error found =>
    cases hresult
    obtain ⟨before, rest, values, hfields, hbad, hbefore⟩ := fill_eq_error hfill
    refine ⟨before, rest, ⟨values⟩, hfields, hbad, ?_⟩
    rw [document, hbefore]

end Producer

section BadFields

variable {σ : Type} [Source σ]

/-- Whether an invocation fails is up to its text, and one that fails leaves the source as it
is. So checking a schema and making a document of the fields that the check does not name leave
the same source, and only the document is counted. A document that fails leaves the source that
a document of the fields before the one at fault leaves. A check that does not come to an end
is one in which no word is ever accepted, and from a steady source there is none. -/
theorem bad_fields_draw_nothing :
    (∀ (text : String) (source later : σ) (error : InvocationError),
      Recipe.invokeText text source = .ok (.error error, later) ↔
        Recipe.ofText text = .error error ∧ later = source) ∧
    (∀ (call : Invocation) (source later : σ) (error : InvocationError),
      Recipe.invoke call source = .ok (.error error, later) ↔
        Recipe.ofInvocation call = .error error ∧ later = source) ∧
    (∀ (producer : Producer σ) (schema : Schema),
      producer.check schema = .error .endless ∧
          producer.document (schema.without schema.errors) = .error .endless ∨
        ∃ errors source document,
          producer.check schema = .ok (errors, ⟨source, producer.produced⟩) ∧
          producer.document (schema.without errors) =
            .ok (.ok document, ⟨source, producer.produced + 1⟩)) ∧
    (∀ (producer later : Producer σ) (schema : Schema) (error : FieldError),
      producer.document schema = .ok (.error error, later) →
      ∃ before rest document,
        schema.fields = before ++ (error.field, error.invocation) :: rest ∧
        Recipe.ofText error.invocation = .error error.cause ∧
        producer.document ⟨before⟩ =
          .ok (.ok document, ⟨later.source, producer.produced + 1⟩) ∧
        later.produced = producer.produced) ∧
    (Steady σ → ∀ (producer : Producer σ) (schema : Schema),
      producer.check schema ≠ .error .endless) := by
  refine ⟨fun _ _ _ _ => Recipe.invokeText_eq_error_iff,
    fun _ _ _ _ => Invocation.invoke_eq_error_iff, ?_, ?_, ?_⟩
  · intro producer schema
    rcases producer.check_eq_document_without schema with hends | ⟨source, document, h⟩
    · exact .inl hends
    · exact .inr ⟨schema.errors, source, document, h⟩
  · intro producer later schema error h
    obtain ⟨before, rest, document, hfields, hbad, hbefore⟩ := Producer.document_eq_error h
    obtain ⟨_, hproduced⟩ := Producer.of_document_eq_error h
    exact ⟨before, rest, document, hfields, hbad, hbefore, hproduced⟩
  · intro _ producer schema
    exact producer.check_ne_endless schema

/-- Two bad fields among two good ones: the check draws for the good ones, and the document that
fails at the first bad one has drawn for the field before it. -/
theorem bad_fields_draw_nothing_between :
    let n := ("n", "getInt(1,3)")
    let item := ("item", "getFromList(a,b)")
    let schema : Schema := ⟨[n, ("bad", "getFoo()"), item, ("worse", "getInt(3,1)")]⟩
    let producer : Producer Script := ⟨Script.ofWords [7, 9], 5⟩
    let error : FieldError := ⟨"bad", "getFoo()", .unknownGenerator "getFoo"⟩
    Recipe.invokeText "getFoo()" producer.source =
      .ok (.error (.unknownGenerator "getFoo"), producer.source) ∧
    (∃ errors source document, producer.check schema = .ok (errors, ⟨source, 5⟩) ∧
      producer.document ⟨[n, item]⟩ = .ok (.ok document, ⟨source, 6⟩)) ∧
    ∃ later document, producer.document schema = .ok (.error error, later) ∧
      producer.document ⟨[n]⟩ = .ok (.ok document, ⟨later.source, 6⟩) := by
  intro n item schema producer error
  have herrors : schema.errors =
      [error, ⟨"worse", "getInt(3,1)", .argument (.invertedRange .int "3" "1")⟩] := by
    decide +kernel
  have hgood : schema.without schema.errors = ⟨[n, item]⟩ := by
    rw [herrors]
    decide
  obtain ⟨htext, _, hcheck, hfailed, hsteady⟩ := bad_fields_draw_nothing (σ := Script)
  refine ⟨(htext _ _ _ _).2 ⟨rfl, rfl⟩, ?_, ?_⟩
  · rcases hcheck producer schema with ⟨hends, _⟩ | ⟨errors, source, document, hmade, hdrawn⟩
    · exact absurd hends (hsteady inferInstance producer schema)
    · obtain ⟨last, hreported⟩ :=
        (producer.check_eq schema).resolve_left (hsteady inferInstance producer schema)
      have hsame : errors = schema.errors := by
        rw [hmade, Except.ok.injEq, Prod.mk.injEq] at hreported
        exact hreported.1
      rw [hsame, hgood] at hdrawn
      exact ⟨errors, source, document, hmade, hdrawn⟩
  · obtain ⟨source, hmade⟩ :=
      (Producer.document_of_errors_eq_cons herrors producer).resolve_left
        (producer.document_ne_endless schema)
    obtain ⟨before, rest, document, hfields, _, hbefore, _⟩ := hfailed _ _ _ _ hmade
    have hfirst : before = [n] := by
      rcases before with _ | ⟨first, _ | ⟨second, before⟩⟩
      · simp [schema, n, error] at hfields
      · simpa [schema] using (List.cons.inj hfields).1.symm
      · -- the name of the bad field does not come a second time
        have hmem : ("bad", "getFoo()") ∈ [item, ("worse", "getInt(3,1)")] := by
          rw [(List.cons.inj (List.cons.inj hfields).2).2]
          exact List.mem_append_right before List.mem_cons_self
        exact absurd hmem (by decide)
    rw [hfirst] at hbefore
    exact ⟨_, document, hmade, hbefore⟩

end BadFields

end Fixture
