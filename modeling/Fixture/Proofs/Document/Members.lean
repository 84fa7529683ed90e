import Fixture.Proofs.Producer.Errors
import Fixture.Proofs.Schema.Reachable
import Fixture.Random.Script
import Mathlib.Data.Finset.Card

/-!
# Fields and members

A document keeps what is added to it in order, and looking a name up finds what was added first
under it. As a JSON object it has each name once, where it was added first, with what was added
last under it. Where no name stands twice the two agree: the members are the fields, and each
is what looking its name up finds. The documents that a producer makes are such documents.
-/

namespace Fixture

namespace Entries

variable {α β : Type}

def FirstBinding (bindings : List (String × α)) (name : String) (a : α) : Prop :=
  ∃ before after, bindings = before ++ (name, a) :: after ∧ name ∉ names before

def LastBinding (bindings : List (String × α)) (name : String) (a : α) : Prop :=
  ∃ before after, bindings = before ++ (name, a) :: after ∧ name ∉ names after

theorem firstBinding_cons_iff {bindings : List (String × α)} {other name : String} {a b : α} :
    FirstBinding ((other, b) :: bindings) name a ↔
      if other = name then b = a else FirstBinding bindings name a := by
  constructor
  · rintro ⟨before, after, heq, hbefore⟩
    cases before with
    | nil =>
      simp only [List.nil_append, List.cons.injEq, Prod.mk.injEq] at heq
      rw [if_pos heq.1.1]
      exact heq.1.2
    | cons entry before =>
      simp only [List.cons_append, List.cons.injEq] at heq
      obtain ⟨rfl, rfl⟩ := heq
      simp only [names, List.map_cons, List.mem_cons, not_or] at hbefore
      rw [if_neg (Ne.symm hbefore.1)]
      exact ⟨before, after, rfl, hbefore.2⟩
  · intro h
    by_cases hname : other = name
    · rw [if_pos hname] at h
      rw [hname, h]
      exact ⟨[], bindings, rfl, List.not_mem_nil⟩
    · rw [if_neg hname] at h
      obtain ⟨before, after, rfl, hbefore⟩ := h
      refine ⟨(other, b) :: before, after, rfl, ?_⟩
      simp only [names, List.map_cons, List.mem_cons, not_or]
      exact ⟨Ne.symm hname, hbefore⟩

/-- Looking a name up finds what it is bound to first. -/
theorem get?_eq_some_iff_firstBinding {bindings : List (String × α)} {name : String} {a : α} :
    get? bindings name = some a ↔ FirstBinding bindings name a := by
  induction bindings with
  | nil => simp [FirstBinding]
  | cons entry bindings ih =>
    obtain ⟨other, b⟩ := entry
    rw [get?, firstBinding_cons_iff]
    by_cases hname : other = name
    · simp only [hname, if_true, Option.some.injEq]
    · simp only [hname, if_false, ih]

theorem firstBinding_reverse_iff {bindings : List (String × α)} {name : String} {a : α} :
    FirstBinding bindings.reverse name a ↔ LastBinding bindings name a := by
  constructor
  · rintro ⟨before, after, heq, hbefore⟩
    refine ⟨after.reverse, before.reverse, ?_, ?_⟩
    · rw [← List.reverse_reverse bindings, heq]
      simp
    · simpa [names] using hbefore
  · rintro ⟨before, after, rfl, hafter⟩
    refine ⟨after.reverse, before.reverse, by simp, ?_⟩
    simpa [names] using hafter

theorem mem_collapse_iff_lastBinding {bindings : List (String × α)} {name : String} {a : α} :
    (name, a) ∈ collapse bindings ↔ LastBinding bindings name a := by
  rw [mem_collapse_iff, get?_eq_some_iff_firstBinding, firstBinding_reverse_iff]

theorem length_collapse (bindings : List (String × α)) :
    (collapse bindings).length = (names bindings).toFinset.card := by
  have hnames : (names bindings).toFinset = (names (collapse bindings)).toFinset := by
    ext name
    rw [List.mem_toFinset, List.mem_toFinset, mem_names_collapse_iff]
  rw [hnames, List.toFinset_card_of_nodup (nodup_names_collapse bindings), names,
    List.length_map]

theorem names_map (f : α → β) (entries : Entries α) :
    names (entries.map (Prod.map id f)) = names entries := by
  rw [names, List.map_map]
  rfl

theorem get?_map (f : α → β) (entries : Entries α) (name : String) :
    get? (entries.map (Prod.map id f)) name = (get? entries name).map f := by
  induction entries with
  | nil => rfl
  | cons entry entries ih =>
    obtain ⟨other, b⟩ := entry
    rw [List.map_cons, Prod.map_apply, get?, get?, ih]
    by_cases hname : other = name
    · simp only [id, hname, if_true, Option.map_some]
    · simp only [id, hname, if_false]

end Entries

namespace Document

variable {document : Document}

def pushEach (document : Document) (pushes : List (String × Value)) : Document :=
  pushes.foldl (fun document push => document.push push.1 push.2) document

theorem fields_pushEach (document : Document) (pushes : List (String × Value)) :
    (document.pushEach pushes).fields = document.fields ++ pushes := by
  induction pushes generalizing document with
  | nil => rw [List.append_nil]; rfl
  | cons push pushes ih =>
    rw [pushEach, List.foldl_cons, ← pushEach, ih, Document.push, List.append_assoc]
    rfl

theorem members_eq (document : Document) (encoding : Encoding) :
    document.members encoding =
      (Entries.collapse document.fields).map (Prod.map id (Value.toJson encoding)) :=
  Entries.collapse_map (Value.toJson encoding) document.fields

theorem names_members (document : Document) (encoding : Encoding) :
    Entries.names (document.members encoding) = document.names.eraseDups := by
  rw [members_eq, Entries.names_map, Entries.names_collapse, names]

theorem mem_members_iff {encoding : Encoding} {name : String} {json : Json} :
    (name, json) ∈ document.members encoding ↔
      ∃ value, Entries.LastBinding document.fields name value ∧
        json = value.toJson encoding := by
  rw [members_eq, List.mem_map]
  constructor
  · rintro ⟨⟨other, value⟩, hmem, heq⟩
    simp only [Prod.map_apply, id, Prod.mk.injEq] at heq
    obtain ⟨rfl, rfl⟩ := heq
    exact ⟨value, Entries.mem_collapse_iff_lastBinding.1 hmem, rfl⟩
  · rintro ⟨value, hlast, rfl⟩
    exact ⟨(name, value), Entries.mem_collapse_iff_lastBinding.2 hlast, rfl⟩

theorem length_members (document : Document) (encoding : Encoding) :
    (document.members encoding).length = document.names.toFinset.card := by
  rw [members_eq, List.length_map, Entries.length_collapse, names]

theorem members_of_nodup (h : document.names.Nodup) (encoding : Encoding) :
    document.members encoding =
      document.fields.map fun field => (field.1, field.2.toJson encoding) := by
  rw [members_eq, Entries.collapse_of_nodup h]
  rfl

theorem toJson_eq (h : document.names.Nodup) (encoding : Encoding) :
    document.toJson encoding =
      .object (document.fields.map fun field => (field.1, field.2.toJson encoding)) := by
  rw [toJson, members_of_nodup h]

/-- The members are the fields in their order, and under each name stands what looking it up
finds. -/
structure Mirrored (document : Document) (encoding : Encoding) : Prop where
  toJson_eq : document.toJson encoding =
    .object (document.fields.map fun field => (field.1, field.2.toJson encoding))
  get?_members : ∀ name, Entries.get? (document.members encoding) name =
    (document.get? name).map (Value.toJson encoding)

theorem mirrored_of_nodup (h : document.names.Nodup) (encoding : Encoding) :
    document.Mirrored encoding where
  toJson_eq := toJson_eq h encoding
  get?_members name := by
    rw [members_of_nodup h]
    exact Entries.get?_map (Value.toJson encoding) document.fields name

end Document

section Pushes

variable {σ : Type} [Source σ]

/-- Whatever is added to a document, names that stand there already and the empty name included,
it keeps all of it in order, and looking a name up finds what was added first under it. As a
JSON object it has the different names in the order in which each was added first, each with the
encoding of what was added last under it. So in a document whose names are distinct the members
are the fields in their order, and each is what looking its name up finds; and so is every
document that a producer makes for a schema that can be built. -/
theorem members_follow_pushes (encoding : Encoding) :
    (∀ pushes : List (String × Value),
      let document := Document.empty.pushEach pushes
      document.fields = pushes ∧ document.size = pushes.length ∧
      (∀ name value, document.get? name = some value ↔
        Entries.FirstBinding pushes name value) ∧
      ∃ members, document.toJson encoding = .object members ∧
        Entries.names members = (Entries.names pushes).eraseDups ∧
        (∀ name json, (name, json) ∈ members ↔
          ∃ value, Entries.LastBinding pushes name value ∧ json = value.toJson encoding) ∧
        members.length = (Entries.names pushes).toFinset.card) ∧
    (∀ document : Document, document.names.Nodup → document.Mirrored encoding) ∧
    (∀ (schema : Schema) (producer later : Producer σ) (document : Document),
      schema.Reachable → producer.document schema = .ok (.ok document, later) →
        document.names.Nodup ∧ document.Mirrored encoding) := by
  refine ⟨?_, fun document h => document.mirrored_of_nodup h encoding, ?_⟩
  · intro pushes document
    have hfields : document.fields = pushes := Document.empty.fields_pushEach pushes
    have hnames : document.names = Entries.names pushes := by rw [Document.names, hfields]
    refine ⟨hfields, by rw [Document.size, hfields], ?_, document.members encoding, rfl, ?_, ?_, ?_⟩
    · intro name value
      rw [Document.get?, hfields, Entries.get?_eq_some_iff_firstBinding]
    · rw [Document.names_members, hnames]
    · intro name json
      rw [Document.mem_members_iff, hfields]
    · rw [Document.length_members, hnames]
  · intro schema producer later document hreach hmade
    obtain ⟨_, hnames, _⟩ := Producer.of_document_eq_ok hmade
    have hnodup : document.names.Nodup := hnames ▸ hreach.wellNamed.nodup
    exact ⟨hnodup, document.mirrored_of_nodup hnodup encoding⟩

/-- A name that is added three times, the empty name, and a document of a producer. -/
theorem members_follow_pushes_repeated :
    let pushes : List (String × Value) :=
      [("a", .int 1), ("", .text "x"), ("a", .text "y"), ("b", .int 2), ("a", .int 3)]
    let document := Document.empty.pushEach pushes
    let schema : Schema := ⟨[("n", "getInt(1,3)"), ("l", "getFromList(x,y)")]⟩
    let producer : Producer Script := ⟨Script.ofWords [5, 9], 0⟩
    document.size = 5 ∧ document.get? "a" = some (.int 1) ∧
    (∃ members, document.toJson .typed = .object members ∧
      Entries.names members = ["a", "", "b"] ∧ ("a", .int 3) ∈ members ∧ members.length = 3) ∧
    schema.Reachable ∧
    ∃ made later, producer.document schema = .ok (.ok made, later) ∧ made.names.Nodup ∧
      made.Mirrored .typed := by
  intro pushes document schema producer
  obtain ⟨hpushes, _, hproducer⟩ := members_follow_pushes (σ := Script) .typed
  obtain ⟨_, hsize, hget, members, hmembers, hnames, hlast, hlength⟩ := hpushes pushes
  have hreach : schema.Reachable := by
    apply Schema.Reachable.ofPairs
    show Schema.ofPairs schema.fields = .ok schema
    rfl
  have hmade : ∃ made later, producer.document schema = .ok (.ok made, later) := by
    have hnone : schema.errors = [] := by decide +kernel
    rcases Producer.document_of_errors_eq_nil hnone producer with h | ⟨made, later, _, h⟩
    · exact absurd h (producer.document_ne_endless schema)
    · exact ⟨made, _, h⟩
  obtain ⟨made, later, h⟩ := hmade
  refine ⟨hsize, (hget "a" _).2 ⟨[], _, rfl, List.not_mem_nil⟩,
    ⟨members, hmembers, hnames, ?_, hlength⟩, hreach, made, later, h,
    hproducer schema producer later made hreach h⟩
  exact (hlast "a" _).2 ⟨.int 3, ⟨pushes.take 4, [], rfl, List.not_mem_nil⟩, rfl⟩

end Pushes

end Fixture
