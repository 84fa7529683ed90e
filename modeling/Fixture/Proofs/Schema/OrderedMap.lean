import Fixture.Proofs.Producer.Agreement
import Fixture.Proofs.Schema.Reachable
import Fixture.Random.Script

/-!
# Schemas are ordered maps

A schema that is kept is offered fields, each of which it takes or refuses. However it began
and whatever it was offered, its fields are those that it began with and those that it took,
bound one after the other: the names are distinct and stand in the order in which each came
first, and each has the invocation that came last.
-/

namespace Fixture

namespace Schema

variable {schema : Schema} {name : String}

/-- Offer a field to a schema that is kept: the error if the field is refused, and the schema
afterwards. -/
def offer (schema : Schema) (name invocation : String) : Option SchemaError × Schema :=
  match schema.add name invocation with
  | .error error => (some error, schema)
  | .ok next => (none, next)

def offerEach (schema : Schema) (fields : List (String × String)) : Schema :=
  fields.foldl (fun schema field => (schema.offer field.1 field.2).2) schema

def named (fields : List (String × String)) : List (String × String) :=
  fields.filter fun field => field.1 ≠ ""

/-- The invocation that a value gives to a field. A value that is no string gives none that
stays: the schema is refused unless another value of the name comes later. -/
def invocationOf : Json → String
  | .string invocation => invocation
  | _ => ""

/-- A schema as it begins, with the fields that it was given for that. -/
inductive Begins : Schema → List (String × String) → Prop
  | empty : Begins Schema.empty []
  | ofPairs {pairs : List (String × String)} {schema : Schema}
      (h : Schema.ofPairs pairs = .ok schema) : Begins schema pairs
  | ofJson {members : List (String × Json)} {schema : Schema}
      (h : Schema.ofJson (.object members) = .ok schema) :
      Begins schema (members.map (Prod.map id invocationOf))
  | ofText {text : String} {members : List (String × Json)} {schema : Schema}
      (hread : Json.read text = .ok (.object members))
      (h : Schema.ofText text = .ok schema) :
      Begins schema (members.map (Prod.map id invocationOf))

theorem named_cons_empty (invocation : String) (rest : List (String × String)) :
    named (("", invocation) :: rest) = named rest := by
  simp [named]

theorem named_cons_of_ne (h : name ≠ "") (invocation : String)
    (rest : List (String × String)) :
    named ((name, invocation) :: rest) = (name, invocation) :: named rest := by
  simp [named, h]

theorem add_empty (schema : Schema) (invocation : String) :
    schema.add "" invocation = .error .emptyFieldName := rfl

theorem add_of_ne (h : name ≠ "") (schema : Schema) (invocation : String) :
    schema.add name invocation = .ok ⟨schema.fields.put name invocation⟩ := by
  rw [add, if_neg (by simpa using h)]

theorem offer_empty (schema : Schema) (invocation : String) :
    schema.offer "" invocation = (some .emptyFieldName, schema) := rfl

theorem offer_of_ne (h : name ≠ "") (schema : Schema) (invocation : String) :
    schema.offer name invocation = (none, ⟨schema.fields.put name invocation⟩) := by
  rw [offer, add_of_ne h]

/-- What was offered is bound one after the other, without what was refused. -/
theorem fields_offerEach (schema : Schema) (offered : List (String × String)) :
    (schema.offerEach offered).fields =
      (named offered).foldl (fun fields field => fields.put field.1 field.2)
        schema.fields := by
  induction offered generalizing schema with
  | nil => rfl
  | cons field offered ih =>
    obtain ⟨name, invocation⟩ := field
    rw [offerEach, List.foldl_cons, ← offerEach]
    by_cases hname : name = ""
    · subst hname
      rw [offer_empty, ih, named_cons_empty]
    · rw [offer_of_ne hname, ih, named_cons_of_ne hname, List.foldl_cons]

theorem ofPairs_eq (pairs : List (String × String)) :
    Schema.ofPairs pairs =
      if "" ∈ Entries.names pairs then .error .emptyFieldName
      else .ok ⟨Entries.collapse pairs⟩ := by
  have hfold (schema : Schema) :
      pairs.foldlM (fun schema pair => schema.add pair.1 pair.2) schema =
        if "" ∈ Entries.names pairs then .error .emptyFieldName
        else .ok ⟨pairs.foldl (fun fields pair => fields.put pair.1 pair.2) schema.fields⟩ := by
    induction pairs generalizing schema with
    | nil => rfl
    | cons pair pairs ih =>
      rw [List.foldlM_cons, Entries.names, List.map_cons]
      by_cases hname : pair.1 = ""
      · rw [hname, add_empty, if_pos List.mem_cons_self]
        rfl
      · rw [add_of_ne hname]
        refine (ih _).trans ?_
        simp only [Entries.names, List.mem_cons, Ne.symm hname, false_or, List.foldl_cons]
        rfl
  exact hfold empty

theorem fields_of_ofPairs {pairs : List (String × String)}
    (h : Schema.ofPairs pairs = .ok schema) :
    "" ∉ Entries.names pairs ∧ schema.fields = Entries.collapse pairs := by
  rw [ofPairs_eq] at h
  split at h
  · cases h
  · rename_i hnames
    cases h
    exact ⟨hnames, rfl⟩

theorem ofPairs_fields (h : schema.WellNamed) : Schema.ofPairs schema.fields = .ok schema := by
  have hnonempty : "" ∉ Entries.names schema.fields := h.nonempty
  rw [ofPairs_eq, if_neg hnonempty, Entries.collapse_of_nodup h.nodup]

theorem wellNamed_offer (h : schema.WellNamed) (name invocation : String) :
    (schema.offer name invocation).2.WellNamed := by
  by_cases hname : name = ""
  · rw [hname, offer_empty]
    exact h
  · rw [offer_of_ne hname]
    exact wellNamed_add h (add_of_ne hname schema invocation)

theorem wellNamed_offerEach (h : schema.WellNamed) (offered : List (String × String)) :
    (schema.offerEach offered).WellNamed := by
  induction offered generalizing schema with
  | nil => exact h
  | cons field offered ih => exact ih (wellNamed_offer h field.1 field.2)

theorem Begins.reachable {given : List (String × String)} (h : schema.Begins given) :
    schema.Reachable := by
  cases h with
  | empty => exact .empty
  | ofPairs h => exact .ofPairs h
  | ofJson h => exact .ofJson h
  | ofText _ h => exact .ofText h

/-- Of the members of an object the fields are what is left when each name is bound to the last
value that it has. -/
theorem fields_of_ofJson {members : List (String × Json)}
    (h : Schema.ofJson (.object members) = .ok schema) :
    schema.fields = Entries.collapse (members.map (Prod.map id invocationOf)) := by
  obtain ⟨hmembers, _⟩ := of_readFields_eq_ok (readFields_of_ofJson h)
  have hback : Prod.map id invocationOf ∘ Json.stringMember = id := rfl
  rw [Entries.collapse_map, hmembers, List.map_map, hback, List.map_id]

theorem ofJson_of_ofText {text : String} {value : Json} (hread : Json.read text = .ok value)
    (h : Schema.ofText text = .ok schema) : Schema.ofJson value = .ok schema := by
  rwa [Schema.ofText, hread] at h

theorem Begins.fields_eq {given : List (String × String)} (h : schema.Begins given) :
    schema.fields = Entries.collapse given := by
  cases h with
  | empty => rfl
  | ofPairs h => exact (fields_of_ofPairs h).2
  | ofJson h => exact fields_of_ofJson h
  | ofText hread h => exact fields_of_ofJson (ofJson_of_ofText hread h)

theorem exists_begins_of_ofJson {value : Json} (h : Schema.ofJson value = .ok schema) :
    ∃ given, schema.Begins given := by
  cases value with
  | object members => exact ⟨_, .ofJson h⟩
  | _ => cases h

theorem exists_begins_of_ofText {text : String} (h : Schema.ofText text = .ok schema) :
    ∃ given, schema.Begins given := by
  cases hread : Json.read text with
  | error error => simp [Schema.ofText, hread] at h
  | ok value => exact exists_begins_of_ofJson (ofJson_of_ofText hread h)

/-- Every schema that can be built began in one of these ways and was then offered fields. -/
theorem Reachable.exists_begins (h : schema.Reachable) :
    ∃ (start : Schema) (given offered : List (String × String)),
      start.Begins given ∧ schema = start.offerEach offered := by
  induction h with
  | empty => exact ⟨_, [], [], .empty, rfl⟩
  | ofText h =>
    obtain ⟨given, hstart⟩ := exists_begins_of_ofText h
    exact ⟨_, given, [], hstart, rfl⟩
  | ofJson h =>
    obtain ⟨given, hstart⟩ := exists_begins_of_ofJson h
    exact ⟨_, given, [], hstart, rfl⟩
  | ofPairs h => exact ⟨_, _, [], .ofPairs h, rfl⟩
  | @add schema next name invocation _ h ih =>
    obtain ⟨start, given, offered, hstart, rfl⟩ := ih
    refine ⟨start, given, offered ++ [(name, invocation)], hstart, ?_⟩
    rw [offerEach, List.foldl_append, ← offerEach]
    show next = ((start.offerEach offered).offer name invocation).2
    rw [offer, h]

/-- However a schema began, its fields are bound in the order in which they were given. -/
theorem Begins.fields_offerEach {given : List (String × String)} (h : schema.Begins given)
    (offered : List (String × String)) :
    (schema.offerEach offered).fields = Entries.collapse (given ++ named offered) := by
  rw [Schema.fields_offerEach, h.fields_eq, Entries.collapse_append_eq_foldl]

theorem exists_offer_of_ne (h : name ≠ "") (schema : Schema) (invocation : String) :
    ∃ next : Schema, schema.offer name invocation = (none, next) ∧
      next.get? name = some invocation ∧
      (∀ other, other ≠ name → next.get? other = schema.get? other) ∧
      (name ∈ schema.names → next.names = schema.names ∧ next.size = schema.size) ∧
      (name ∉ schema.names →
        next.names = schema.names ++ [name] ∧ next.size = schema.size + 1) := by
  refine ⟨_, offer_of_ne h schema invocation, Entries.get?_put_self _ _ _, ?_, ?_, ?_⟩
  · intro other hother
    exact Entries.get?_put_of_ne _ hother _
  · intro hmem
    have hnames : Entries.names (schema.fields.put name invocation) = schema.names :=
      (Entries.names_put _ _ _).trans (if_pos hmem)
    exact ⟨hnames, by simpa [Entries.names, names, size] using congrArg List.length hnames⟩
  · intro hnew
    have hnames : Entries.names (schema.fields.put name invocation) = schema.names ++ [name] :=
      (Entries.names_put _ _ _).trans (if_neg hnew)
    exact ⟨hnames, by simpa [Entries.names, names, size] using congrArg List.length hnames⟩

end Schema

section OrderedMap

variable {σ : Type} [Source σ]

/-- A schema that began in any way and was offered any fields, of which it refused those
without a name, has distinct names, none of them empty, in the order in which they came
first, each with the invocation that came last. One more field without a name leaves it as it
is. One with a name is bound to its invocation and comes last if its name is new, and nothing
else changes. The fields give back the schema, and no document of it has a name twice. -/
theorem schemas_are_ordered_maps {start schema : Schema} {given : List (String × String)}
    (hstart : start.Begins given) {offered : List (String × String)}
    (hschema : schema = start.offerEach offered) :
    schema.names.Nodup ∧ "" ∉ schema.names ∧
    schema.names = (Entries.names (given ++ Schema.named offered)).eraseDups ∧
    (∀ name, schema.get? name =
      Entries.get? (given ++ Schema.named offered).reverse name) ∧
    (∀ invocation, schema.offer "" invocation = (some .emptyFieldName, schema)) ∧
    (∀ name invocation, name ≠ "" → ∃ next : Schema,
      schema.offer name invocation = (none, next) ∧
      next.get? name = some invocation ∧
      (∀ other, other ≠ name → next.get? other = schema.get? other) ∧
      (name ∈ schema.names → next.names = schema.names ∧ next.size = schema.size) ∧
      (name ∉ schema.names →
        next.names = schema.names ++ [name] ∧ next.size = schema.size + 1)) ∧
    Schema.ofPairs schema.fields = .ok schema ∧
    ∀ (producer later : Producer σ) (document : Document),
      producer.document schema = .ok (.ok document, later) → document.names.Nodup := by
  have hgood : schema.WellNamed :=
    hschema ▸ Schema.wellNamed_offerEach hstart.reachable.wellNamed offered
  have hfields : schema.fields = Entries.collapse (given ++ Schema.named offered) :=
    hschema ▸ hstart.fields_offerEach offered
  refine ⟨hgood.nodup, hgood.nonempty, ?_, ?_, schema.offer_empty, ?_,
    Schema.ofPairs_fields hgood, ?_⟩
  · rw [Schema.names, hfields, Entries.names_collapse]
  · intro name
    rw [Schema.get?, hfields, Entries.get?_collapse]
  · intro name invocation hname
    exact Schema.exists_offer_of_ne hname schema invocation
  · intro producer later document hmade
    obtain ⟨_, hnames, _⟩ := Producer.of_document_eq_ok hmade
    rw [hnames]
    exact hgood.nodup

/-- Pairs with a name twice, then a field without a name, a new one and one that is bound
already. -/
theorem schemas_are_ordered_maps_rebound :
    let given := [("a", "getInt()"), ("b", "getName()"), ("a", "getEmail()")]
    let offered := [("", "getInt()"), ("c", "getInt(1,3)"), ("b", "getInt(5,5)")]
    let start : Schema := ⟨[("a", "getEmail()"), ("b", "getName()")]⟩
    let schema : Schema := ⟨[("a", "getEmail()"), ("b", "getInt(5,5)"), ("c", "getInt(1,3)")]⟩
    start.Begins given ∧ schema = start.offerEach offered ∧
      schema.names = ["a", "b", "c"] ∧ schema.get? "b" = some "getInt(5,5)" ∧
      schema.offer "" "getInt()" = (some .emptyFieldName, schema) ∧
      (∃ next, schema.offer "d" "getName()" = (none, next) ∧
        next.names = ["a", "b", "c", "d"] ∧ next.get? "a" = schema.get? "a") ∧
      Schema.ofPairs schema.fields = .ok schema ∧
      ∀ (producer later : Producer Script) (document : Document),
        producer.document schema = .ok (.ok document, later) → document.names.Nodup := by
  intro given offered start schema
  have hstart : start.Begins given := .ofPairs rfl
  have hschema : schema = start.offerEach offered := rfl
  obtain ⟨_, _, hnames, hget, hrefused, htaken, hpairs, hdocument⟩ :=
    schemas_are_ordered_maps (σ := Script) hstart hschema
  have hthree : schema.names = ["a", "b", "c"] := hnames
  obtain ⟨next, hnext, _, hsame, _, hnew⟩ := htaken "d" "getName()" (by decide)
  obtain ⟨hlast, _⟩ := hnew (by rw [hthree]; decide)
  exact ⟨hstart, hschema, hthree, hget "b", hrefused "getInt()",
    ⟨next, hnext, hlast, hsame "a" (by decide)⟩, hpairs, hdocument⟩

end OrderedMap

end Fixture
