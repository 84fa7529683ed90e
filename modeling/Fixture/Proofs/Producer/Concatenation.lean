import Fixture.Proofs.Schema.OrderedMap

/-!
# Schemas one after the other

The fields of one schema may be added to another that has none of their names. A document of
both is a document of the first and then, from the source that this one leaves, a document of
the second; whichever fails first is what fails. It is counted once, and only if neither fails.
So more fields at the end of a schema leave the values of the fields before them as they are.
-/

namespace Fixture

namespace Schema

variable {first second : Schema}

def append (first second : Schema) : Schema :=
  ⟨first.fields ++ second.fields⟩

theorem names_append (first second : Schema) :
    (first.append second).names = first.names ++ second.names :=
  List.map_append

theorem wellNamed_append (hfirst : first.WellNamed) (hsecond : second.WellNamed)
    (hdisjoint : ∀ name ∈ first.names, name ∉ second.names) :
    (first.append second).WellNamed where
  nodup := by
    rw [names_append, List.nodup_append]
    refine ⟨hfirst.nodup, hsecond.nodup, ?_⟩
    rintro name hname _ hother rfl
    exact hdisjoint name hname hother
  nonempty := by
    rw [names_append, List.mem_append, not_or]
    exact ⟨hfirst.nonempty, hsecond.nonempty⟩

theorem named_of_not_mem {fields : List (String × String)} (h : "" ∉ Entries.names fields) :
    named fields = fields := by
  rw [named, List.filter_eq_self]
  intro field hfield
  rw [decide_eq_true_eq]
  exact fun hempty => h (hempty ▸ List.mem_map_of_mem hfield)

theorem offerEach_eq_append (hfirst : first.WellNamed) (hsecond : second.WellNamed)
    (hdisjoint : ∀ name ∈ first.names, name ∉ second.names) :
    first.offerEach second.fields = first.append second := by
  have hnodup : (Entries.names (first.fields ++ second.fields)).Nodup :=
    (wellNamed_append hfirst hsecond hdisjoint).nodup
  have hfields : (first.offerEach second.fields).fields = first.fields ++ second.fields := by
    rw [fields_offerEach, named_of_not_mem hsecond.nonempty,
      ← Entries.collapse_of_nodup hnodup, Entries.collapse_append_eq_foldl,
      Entries.collapse_of_nodup hfirst.nodup]
  rw [append, ← hfields]

theorem size_of_names_eq {document : Document} {schema : Schema}
    (h : document.names = schema.names) : document.size = schema.size := by
  have hlength := congrArg List.length h
  rwa [Document.names, Entries.names, List.length_map, names, Entries.names,
    List.length_map] at hlength

end Schema

namespace Producer

variable {σ : Type} [Source σ]

/-- What a producer makes depends on its source alone, and its count is carried along. -/
theorem document_of_source (source : σ) (produced : Nat) (schema : Schema) :
    (⟨source, produced⟩ : Producer σ).document schema =
      match (ofSource source).document schema with
      | .error halt => .error halt
      | .ok (result, later) => .ok (result, ⟨later.source, produced + later.produced⟩) := by
  rw [document, document, ofSource]
  rcases fill schema.fields source with halt | ⟨error | values, later⟩ <;> rfl

/-- A document of two schemas is one of the first and then one of the second. -/
theorem document_append (producer : Producer σ) (first second : Schema) :
    producer.document (first.append second) =
      match producer.document first with
      | .error halt => .error halt
      | .ok (.error error, later) => .ok (.error error, later)
      | .ok (.ok front, later) =>
        match (⟨later.source, producer.produced⟩ : Producer σ).document second with
        | .error halt => .error halt
        | .ok (.error error, last) => .ok (.error error, last)
        | .ok (.ok back, last) => .ok (.ok ⟨front.fields ++ back.fields⟩, last) := by
  rw [document, Schema.append, fill_append, document]
  rcases fill first.fields producer.source with halt | ⟨error | values, later⟩
  · rfl
  · rfl
  · simp only [document]
    rcases fill second.fields later with halt | ⟨error | more, last⟩ <;> rfl

section Append

variable {producer between later : Producer σ} {first second schema : Schema}
  {front back document : Document}

theorem document_append_of_ok (hfront : producer.document first = .ok (.ok front, between))
    {produced : Nat}
    (hback : (⟨between.source, produced⟩ : Producer σ).document second =
      .ok (.ok back, later)) :
    producer.document (first.append second) =
      .ok (.ok ⟨front.fields ++ back.fields⟩, ⟨later.source, producer.produced + 1⟩) := by
  rw [document_of_source] at hback
  rw [document_append, hfront]
  simp only
  rw [document_of_source]
  rcases hmade : (ofSource between.source).document second with halt | ⟨error | made, last⟩
  · simp [hmade] at hback
  · simp [hmade] at hback
  · obtain ⟨_, _, hproduced⟩ := of_document_eq_ok hmade
    simp only [hmade, Except.ok.injEq, Prod.mk.injEq] at hback
    obtain ⟨rfl, rfl⟩ := hback
    simp only [hproduced, ofSource, Nat.zero_add]

theorem document_append_of_error
    (hfront : producer.document first = .ok (.ok front, between)) {produced : Nat}
    {error : FieldError}
    (hback : (⟨between.source, produced⟩ : Producer σ).document second =
      .ok (.error error, later)) :
    producer.document (first.append second) =
      .ok (.error error, ⟨later.source, producer.produced⟩) := by
  rw [document_of_source] at hback
  rw [document_append, hfront]
  simp only
  rw [document_of_source]
  rcases hmade : (ofSource between.source).document second with halt | ⟨found | made, last⟩
  · simp [hmade] at hback
  · obtain ⟨_, hproduced⟩ := of_document_eq_error hmade
    simp only [hmade, Except.ok.injEq, Prod.mk.injEq] at hback
    obtain ⟨hsame, rfl⟩ := hback
    cases hsame
    simp only [hproduced, ofSource, Nat.add_zero]
  · simp [hmade] at hback

theorem document_append_of_first_error {error : FieldError}
    (hfront : producer.document first = .ok (.error error, later)) :
    producer.document (first.append second) =
      .ok (.error error, ⟨later.source, producer.produced⟩) := by
  obtain ⟨_, hproduced⟩ := of_document_eq_error hfront
  rw [document_append, hfront, ← hproduced]

/-- A document of two schemas begins with a document of the first. -/
theorem exists_prefix_of_document_append
    (h : producer.document (first.append second) = .ok (.ok document, later)) :
    ∃ front between, producer.document first = .ok (.ok front, between) ∧
      document.fields.take first.size = front.fields := by
  rw [document_append] at h
  rcases hfront : producer.document first with halt | ⟨error | front, between⟩
  · simp [hfront] at h
  · simp [hfront] at h
  · refine ⟨front, between, rfl, ?_⟩
    obtain ⟨_, hnames, _⟩ := of_document_eq_ok hfront
    have hsize : front.fields.length = first.size := Schema.size_of_names_eq hnames
    simp only [hfront] at h
    rcases hback : (⟨between.source, producer.produced⟩ : Producer σ).document second with
      halt | ⟨error | back, last⟩
    · simp [hback] at h
    · simp [hback] at h
    · simp only [hback, Except.ok.injEq, Prod.mk.injEq] at h
      rw [← h.1, ← hsize, List.take_left]

end Append

end Producer

section Concatenation

variable {σ : Type} [Source σ]

/-- Fields of new names that are added to a schema one after the other come at its end. A
document of such a schema is a document of its first part and, from the source that this one
leaves, a document of the other; where the first part fails, or else the other, so does the
whole, with the same error and source. It is counted once if it is made and not at all if it
fails. So the values of a document do not depend on the fields that come after them, and its
names are the names of its schema. -/
theorem documents_follow_schemas (first second : Schema) :
    (first.Reachable → second.Reachable → (∀ name ∈ first.names, name ∉ second.names) →
      Schema.ofPairs (first.fields ++ second.fields) = .ok (first.append second) ∧
      first.offerEach second.fields = first.append second) ∧
    (∀ (producer between : Producer σ) (front : Document),
      producer.document first = .ok (.ok front, between) →
      (∀ (produced : Nat) (back : Document) (later : Producer σ),
        (⟨between.source, produced⟩ : Producer σ).document second = .ok (.ok back, later) →
        producer.document (first.append second) =
          .ok (.ok ⟨front.fields ++ back.fields⟩, ⟨later.source, producer.produced + 1⟩)) ∧
      ∀ (produced : Nat) (error : FieldError) (later : Producer σ),
        (⟨between.source, produced⟩ : Producer σ).document second = .ok (.error error, later) →
        producer.document (first.append second) =
          .ok (.error error, ⟨later.source, producer.produced⟩)) ∧
    (∀ (producer later : Producer σ) (error : FieldError),
      producer.document first = .ok (.error error, later) →
      producer.document (first.append second) =
        .ok (.error error, ⟨later.source, producer.produced⟩)) ∧
    (∀ (producer later : Producer σ) (document : Document),
      producer.document (first.append second) = .ok (.ok document, later) →
      ∃ front between, producer.document first = .ok (.ok front, between) ∧
        document.fields.take first.size = front.fields) ∧
    (∀ (schema : Schema) (producer later : Producer σ) (document : Document),
      producer.document schema = .ok (.ok document, later) →
      document.names = schema.names ∧ document.size = schema.size) := by
  refine ⟨?_, ?_, ?_, ?_, ?_⟩
  · intro hfirst hsecond hdisjoint
    have hnamed := Schema.wellNamed_append hfirst.wellNamed hsecond.wellNamed hdisjoint
    exact ⟨Schema.ofPairs_fields hnamed,
      Schema.offerEach_eq_append hfirst.wellNamed hsecond.wellNamed hdisjoint⟩
  · intro producer between front hfront
    exact ⟨fun produced back later hback => Producer.document_append_of_ok hfront hback,
      fun produced error later hback => Producer.document_append_of_error hfront hback⟩
  · intro producer later error hfront
    exact Producer.document_append_of_first_error hfront
  · intro producer later document h
    exact Producer.exists_prefix_of_document_append h
  · intro schema producer later document h
    obtain ⟨_, hnames, _⟩ := Producer.of_document_eq_ok h
    exact ⟨hnames, Schema.size_of_names_eq hnames⟩

/-- Two good parts after each other, and a part that fails after one that does not and before
one. -/
theorem documents_follow_schemas_failing :
    let first : Schema := ⟨[("n", "getInt(1,3)")]⟩
    let second : Schema := ⟨[("item", "getFromList(a,b)"), ("m", "getInt(5,5)")]⟩
    let bad : Schema := ⟨[("bad", "getFoo()")]⟩
    let producer : Producer Script := ⟨Script.ofWords [7, 9], 5⟩
    Schema.ofPairs (first.fields ++ second.fields) = .ok (first.append second) ∧
    ∃ front between, producer.document first = .ok (.ok front, between) ∧
      (∃ back later, between.document second = .ok (.ok back, later) ∧
        producer.document (first.append second) =
          .ok (.ok ⟨front.fields ++ back.fields⟩, ⟨later.source, 6⟩) ∧
        Document.names ⟨front.fields ++ back.fields⟩ = ["n", "item", "m"] ∧
        (front.fields ++ back.fields).take 1 = front.fields) ∧
      (∃ error later, between.document bad = .ok (.error error, later) ∧
        producer.document (first.append bad) = .ok (.error error, ⟨later.source, 5⟩)) ∧
      ∃ error later, producer.document bad = .ok (.error error, later) ∧
        producer.document (bad.append first) = .ok (.error error, ⟨later.source, 5⟩) := by
  intro first second bad producer
  have hpairs : Schema.ofPairs first.fields = .ok first := rfl
  have hmore : Schema.ofPairs second.fields = .ok second := rfl
  have hbad : bad.errors = [⟨"bad", "getFoo()", .unknownGenerator "getFoo"⟩] := by
    decide +kernel
  obtain ⟨hbuilt, hgood, _, hprefix, hnames⟩ :=
    documents_follow_schemas (σ := Script) first second
  obtain ⟨_, hfailing, _⟩ := documents_follow_schemas (σ := Script) first bad
  obtain ⟨_, _, hfailed, _⟩ := documents_follow_schemas (σ := Script) bad first
  obtain ⟨front, between, _, hfront⟩ :=
    (Producer.document_of_errors_eq_nil (by decide +kernel) producer).resolve_left
      (producer.document_ne_endless first)
  refine ⟨(hbuilt (.ofPairs hpairs) (.ofPairs hmore) (by decide)).1, front, _, hfront,
    ?_, ?_, ?_⟩
  · obtain ⟨back, later, _, hback⟩ :=
      (Producer.document_of_errors_eq_nil (by decide +kernel) _).resolve_left
        (Producer.document_ne_endless ⟨between, 6⟩ second)
    have hboth := (hgood _ _ _ hfront).1 _ _ _ hback
    obtain ⟨begun, _, hbegun, htake⟩ := hprefix _ _ _ hboth
    rw [hfront, Except.ok.injEq, Prod.mk.injEq, Except.ok.injEq] at hbegun
    rw [← hbegun.1] at htake
    exact ⟨back, _, hback, hboth, (hnames _ _ _ _ hboth).1, htake⟩
  · obtain ⟨later, hback⟩ :=
      (Producer.document_of_errors_eq_cons hbad _).resolve_left
        (Producer.document_ne_endless ⟨between, 6⟩ bad)
    exact ⟨_, _, hback, (hfailing _ _ _ hfront).2 _ _ _ hback⟩
  · obtain ⟨later, hback⟩ :=
      (Producer.document_of_errors_eq_cons hbad producer).resolve_left
        (producer.document_ne_endless bad)
    exact ⟨_, _, hback, hfailed _ _ _ hback⟩

end Concatenation

end Fixture
