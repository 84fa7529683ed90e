import Fixture.Proofs.Document.Members
import Fixture.Proofs.Producer.Errors
import Fixture.Proofs.Recipe.Finite
import Fixture.Proofs.Schema.Reachable
import Fixture.Random.Script
import Mathlib.Data.List.Forall2

/-!
# The types of members

Which sort of JSON value a member of a document is depends on the generator that its
invocation names, and on nothing else: not on what is drawn and not on what a text looks like.
The string that stands for a double without an exact value is never written, since every
double that is drawn is finite. In the text encoding all members are strings.
-/

namespace Fixture

/-- The JSON values that a generator gives in the typed encoding. -/
def Generator.Gives : Generator → Json → Prop
  | .int, json => ∃ n, json = .int n
  | .double, json | .latitude, json | .longitude, json => ∃ x, x.isFinite ∧ json = .real x
  | .email, json | .person, json | .item, json => ∃ s, json = .string s

theorem Value.toJson_typed_of_isFinite {x : Binary64} (h : x.isFinite) :
    (Value.double x).toJson .typed = .real x := if_pos h

namespace Recipe

def generator : Recipe → Generator
  | .int _ _ => .int
  | .double _ _ => .double
  | .email => .email
  | .person => .person
  | .latitude => .latitude
  | .longitude => .longitude
  | .item _ => .item

theorem generator_of_ofArguments {generator : Generator} {arguments : List String}
    {recipe : Recipe} (h : ofArguments generator arguments = .ok recipe) :
    recipe.generator = generator := by
  cases generator with
  | int =>
    simp only [ofArguments] at h
    split at h
    · cases h
      rfl
    · obtain ⟨min, max, _, _, hbetween⟩ := exists_of_bind_read h
      obtain ⟨_, rfl⟩ := of_between_eq_ok hbetween
      rfl
    · cases h
  | double =>
    simp only [ofArguments] at h
    split at h
    · obtain ⟨min, max, _, _, hbetween⟩ := exists_of_bind_read h
      obtain ⟨_, _, rfl⟩ := of_betweenDoubles_eq_ok hbetween
      rfl
    · cases h
  | email => rw [eq_of_withoutArguments h]; rfl
  | person => rw [eq_of_withoutArguments h]; rfl
  | latitude => rw [eq_of_withoutArguments h]; rfl
  | longitude => rw [eq_of_withoutArguments h]; rfl
  | item =>
    simp only [ofArguments] at h
    split at h
    · cases h
    · cases h
      rfl

theorem exists_call_of_ofText {text : String} {recipe : Recipe} (h : ofText text = .ok recipe) :
    ∃ call, Invocation.read text = .ok call ∧ recipe.generator.name = call.generator := by
  unfold ofText at h
  split at h
  · cases h
  · rename_i call hread
    refine ⟨call, hread, ?_⟩
    unfold ofInvocation at h
    split at h
    · cases h
    · rename_i generator hname
      split at h
      · cases h
      · rename_i made hmade
        cases h
        rw [generator_of_ofArguments hmade]
        exact Generator.ofName?_eq_some_iff.1 hname

variable {σ : Type} [Source σ] {source later : σ} {value : Value}

theorem gives_of_draw {recipe : Recipe} (h : recipe.Sound)
    (hdraw : recipe.draw source = .ok (value, later)) :
    recipe.generator.Gives (value.toJson .typed) := by
  have hmakes := (yields_draw h).of_eq_ok hdraw
  have hfinite := (yields_draw_isFinite h).of_eq_ok hdraw
  have hreal {x : Binary64} (hx : value = .double x) :
      ∃ y, y.isFinite ∧ value.toJson .typed = .real y :=
    ⟨x, hfinite x hx, hx ▸ Value.toJson_typed_of_isFinite (hfinite x hx)⟩
  cases recipe with
  | int min max =>
    obtain ⟨n, rfl, _⟩ := hmakes
    exact ⟨n.toInt, rfl⟩
  | double min max =>
    obtain ⟨x, hx, _⟩ := hmakes
    exact hreal hx
  | latitude =>
    obtain ⟨x, hx⟩ := hmakes
    exact hreal hx
  | longitude =>
    obtain ⟨x, hx⟩ := hmakes
    exact hreal hx
  | email =>
    obtain ⟨s, rfl⟩ := hmakes
    exact ⟨s, rfl⟩
  | person =>
    obtain ⟨s, rfl⟩ := hmakes
    exact ⟨s, rfl⟩
  | item items =>
    obtain ⟨s, rfl, _⟩ := hmakes
    exact ⟨s, rfl⟩

theorem isFinite_of_invoke {call : Invocation}
    (h : invoke call source = .ok (.ok value, later)) : value.IsFinite := by
  cases hread : ofInvocation call with
  | error error =>
    rw [invoke_eq, hread] at h
    cases h
  | ok recipe =>
    rw [invoke_eq_draw hread] at h
    rcases hdraw : recipe.draw source with halt | ⟨drawn, next⟩
    · rw [Draw.bind_of_error hdraw] at h
      cases h
    · rw [Draw.bind_of_ok hdraw] at h
      cases h
      exact (yields_draw_isFinite (sound_of_ofInvocation hread)).of_eq_ok hdraw

end Recipe

namespace Producer

variable {σ : Type} [Source σ]

/-- The values of a document, field by field: each was drawn by the recipe of its field. -/
theorem forall₂_of_fill {fields : Entries String} {source later : σ}
    {entries : List (String × Value)} (h : fill fields source = .ok (.ok entries, later)) :
    List.Forall₂ (fun field entry => entry.1 = field.1 ∧ ∃ recipe,
      Recipe.ofText field.2 = .ok recipe ∧ ∃ before after : σ,
        recipe.draw before = .ok (entry.2, after)) fields entries := by
  induction fields generalizing source entries with
  | nil =>
    cases h
    exact .nil
  | cons field rest ih =>
    rcases fill_cons_eq_ok h with ⟨_, _, hresult, _⟩ |
      ⟨recipe, value, next, others, hread, hdraw, hrest, hresult⟩
    · cases hresult
    · cases others with
      | error error => cases hresult
      | ok more =>
        cases hresult
        exact .cons ⟨rfl, recipe, hread, source, next, hdraw⟩ (ih hrest)

theorem gives_of_document {producer later : Producer σ} {schema : Schema}
    {document : Document} (h : producer.document schema = .ok (.ok document, later)) :
    List.Forall₂ (fun field member => member.1 = field.1 ∧ ∃ call generator,
      Invocation.read field.2 = .ok call ∧ Generator.name generator = call.generator ∧
        generator.Gives member.2)
      schema.fields (document.fields.map fun field => (field.1, field.2.toJson .typed)) := by
  obtain ⟨filled, hfill, hresult⟩ := fill_of_document h
  cases filled with
  | error error => cases hresult
  | ok entries =>
    cases hresult
    rw [List.forall₂_map_right_iff]
    refine (forall₂_of_fill hfill).imp ?_
    rintro field entry ⟨hname, recipe, hread, before, after, hdraw⟩
    obtain ⟨call, hcall, hgenerator⟩ := Recipe.exists_call_of_ofText hread
    exact ⟨hname, call, recipe.generator, hcall, hgenerator,
      Recipe.gives_of_draw (Recipe.sound_of_ofText hread) hdraw⟩

end Producer

section Types

variable {σ : Type} [Source σ]

/-- A document of a schema that can be built has the names of the schema in their order, in
both encodings. In the typed encoding each member is of the type that the generator of its
invocation gives; in the text encoding each is a string, the text of its value. No invocation
gives a double that is not finite, so that every double is written as a number. -/
theorem members_typed_by_generator {schema : Schema} (hreach : schema.Reachable)
    {producer later : Producer σ} {document : Document}
    (h : producer.document schema = .ok (.ok document, later)) :
    (∀ encoding, ∃ members, document.toJson encoding = .object members ∧
      Entries.names members = schema.names) ∧
    (∃ members, document.toJson .typed = .object members ∧
      List.Forall₂ (fun field member => member.1 = field.1 ∧ ∃ call generator,
        Invocation.read field.2 = .ok call ∧ Generator.name generator = call.generator ∧
          generator.Gives member.2) schema.fields members) ∧
    document.toJson .text =
      .object (document.fields.map fun field => (field.1, .string field.2.display)) ∧
    ∀ (call : Invocation) (source after : σ) (value : Value),
      Recipe.invoke call source = .ok (.ok value, after) →
      ∀ x, value = .double x → x.isFinite ∧ value.toJson .typed = .real x := by
  obtain ⟨_, hnames, _⟩ := Producer.of_document_eq_ok h
  have hnodup : document.names.Nodup := hnames ▸ hreach.wellNamed.nodup
  refine ⟨?_, ?_, document.toJson_eq hnodup .text, ?_⟩
  · intro encoding
    refine ⟨_, document.toJson_eq hnodup encoding, ?_⟩
    rw [Entries.names, List.map_map]
    exact hnames
  · exact ⟨_, document.toJson_eq hnodup .typed, Producer.gives_of_document h⟩
  · rintro call source after value hinvoke x rfl
    have hfinite := Recipe.isFinite_of_invoke hinvoke x rfl
    exact ⟨hfinite, Value.toJson_typed_of_isFinite hfinite⟩

/-- An item that looks like a number is a string, and a latitude is a number. -/
theorem members_typed_by_generator_item :
    let schema : Schema := ⟨[("l", "getFromList(1,2)"), ("a", "getLatitude()")]⟩
    let producer : Producer Script := ⟨Script.ofWords [5, 9], 0⟩
    schema.Reachable ∧ ∃ document later,
      producer.document schema = .ok (.ok document, later) ∧
      ∃ s x, document.toJson .typed = .object [("l", .string s), ("a", .real x)] ∧
        x.isFinite ∧
        document.toJson .text =
          .object (document.fields.map fun field => (field.1, .string field.2.display)) := by
  intro schema producer
  have hreach : schema.Reachable := by
    apply Schema.Reachable.ofPairs
    show Schema.ofPairs schema.fields = .ok schema
    rfl
  have hmade : ∃ document later, producer.document schema = .ok (.ok document, later) := by
    have hnone : schema.errors = [] := by decide +kernel
    rcases Producer.document_of_errors_eq_nil hnone producer with h | ⟨document, later, _, h⟩
    · exact absurd h (producer.document_ne_endless schema)
    · exact ⟨document, _, h⟩
  obtain ⟨document, later, h⟩ := hmade
  obtain ⟨_, ⟨members, hmembers, htypes⟩, htext, _⟩ := members_typed_by_generator hreach h
  refine ⟨hreach, document, later, h, ?_⟩
  have hlist : Invocation.read "getFromList(1,2)" = .ok ⟨"getFromList", ["1", "2"]⟩ := by
    decide +kernel
  have hlatitude : Invocation.read "getLatitude()" = .ok ⟨"getLatitude", []⟩ := by
    decide +kernel
  rw [hmembers]
  cases htypes with
  | @cons _ first _ _ hfirst hrest =>
    cases hrest with
    | @cons _ second _ _ hsecond hnil =>
      cases hnil
      obtain ⟨hl, call, generator, hcall, hname, hgives⟩ := hfirst
      cases hlist.symm.trans hcall
      obtain rfl : generator = .item := Generator.name_injective hname
      obtain ⟨ha, call, generator, hcall, hname, hreal⟩ := hsecond
      cases hlatitude.symm.trans hcall
      obtain rfl : generator = .latitude := Generator.name_injective hname
      obtain ⟨s, hs⟩ := hgives
      obtain ⟨x, hfinite, hx⟩ := hreal
      have hfirst : first = ("l", .string s) := Prod.ext hl hs
      have hsecond : second = ("a", .real x) := Prod.ext ha hx
      exact ⟨s, x, by rw [hfirst, hsecond], hfinite, htext⟩

end Types

end Fixture
