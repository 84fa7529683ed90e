import Fixture.Proofs.Entries
import Fixture.Proofs.Json.Objects
import Fixture.Schema

/-!
# Schemas that can be built

A schema comes from nothing, from JSON or from pairs, and more fields may be added to it.
However it was built its names are distinct and none is empty. An object of strings with
such names is read as it stands.
-/

namespace Fixture

namespace Schema

inductive Reachable : Schema → Prop
  | empty : Reachable Schema.empty
  | ofText {text : String} {schema : Schema} (h : Schema.ofText text = .ok schema) :
      Reachable schema
  | ofJson {value : Json} {schema : Schema} (h : Schema.ofJson value = .ok schema) :
      Reachable schema
  | ofPairs {pairs : List (String × String)} {schema : Schema}
      (h : Schema.ofPairs pairs = .ok schema) : Reachable schema
  | add {schema next : Schema} {name invocation : String} (hreach : Reachable schema)
      (h : schema.add name invocation = .ok next) : Reachable next

/-- The names of a schema are distinct and none is empty. -/
structure WellNamed (schema : Schema) : Prop where
  nodup : schema.names.Nodup
  nonempty : "" ∉ schema.names

theorem wellNamed_empty : Schema.empty.WellNamed :=
  ⟨List.nodup_nil, List.not_mem_nil⟩

theorem wellNamed_add {schema next : Schema} (hgood : schema.WellNamed)
    {name invocation : String} (h : schema.add name invocation = .ok next) :
    next.WellNamed := by
  unfold add at h
  split at h
  · cases h
  · rename_i hname
    rw [← Except.ok.inj h]
    constructor
    · exact Entries.nodup_names_put hgood.nodup name invocation
    · rw [names, Entries.names_put]
      have hne : "" ≠ name := fun heq => hname (by simp [← heq])
      split
      · exact hgood.nonempty
      · intro hmem
        rcases List.mem_append.1 hmem with hold | hnew
        · exact hgood.nonempty hold
        · exact hne (List.mem_singleton.1 hnew)

theorem wellNamed_foldlM_add (pairs : List (String × String)) {schema next : Schema}
    (hgood : schema.WellNamed)
    (h : pairs.foldlM (fun schema pair => schema.add pair.1 pair.2) schema = .ok next) :
    next.WellNamed := by
  induction pairs generalizing schema with
  | nil =>
    rw [← Except.ok.inj h]
    exact hgood
  | cons pair pairs ih =>
    rw [List.foldlM_cons] at h
    rcases hadd : schema.add pair.1 pair.2 with error | added
    · rw [hadd] at h
      cases h
    · rw [hadd] at h
      exact ih (wellNamed_add hgood hadd) h

theorem of_readFields_eq_ok {members : Entries Json} {fields : Entries String}
    (h : readFields members = .ok fields) :
    members = fields.map Json.stringMember ∧ "" ∉ Entries.names fields := by
  induction members generalizing fields with
  | nil =>
    rw [← Except.ok.inj h]
    exact ⟨rfl, List.not_mem_nil⟩
  | cons member members ih =>
    obtain ⟨name, value⟩ := member
    unfold readFields at h
    split at h
    · cases h
    · rename_i hname
      split at h
      · rename_i invocation
        rcases hrest : readFields members with error | rest
        · rw [hrest] at h
          cases h
        · rw [hrest] at h
          have hne : "" ≠ name := fun heq => hname (by simp [← heq])
          obtain ⟨hsame, hnonempty⟩ := ih hrest
          rw [← Except.ok.inj h, hsame]
          refine ⟨rfl, ?_⟩
          rw [Entries.names, List.map_cons, List.mem_cons, not_or]
          exact ⟨hne, hnonempty⟩
      · cases h

theorem readFields_of_ofJson {members : List (String × Json)} {schema : Schema}
    (h : Schema.ofJson (.object members) = .ok schema) :
    readFields (Entries.collapse members) = .ok schema.fields := by
  rw [ofJson] at h
  rcases hfields : readFields (Entries.collapse members) with error | fields
  · rw [hfields] at h
    cases h
  · rw [hfields] at h
    rw [← Except.ok.inj h]

theorem wellNamed_of_ofJson {value : Json} {schema : Schema}
    (h : Schema.ofJson value = .ok schema) : schema.WellNamed := by
  cases value with
  | object members =>
    obtain ⟨hmembers, hnonempty⟩ := of_readFields_eq_ok (readFields_of_ofJson h)
    refine ⟨?_, hnonempty⟩
    have hnames : schema.names = Entries.names (Entries.collapse members) := by
      rw [hmembers, Entries.names, List.map_map]
      rfl
    rw [hnames]
    exact Entries.nodup_names_collapse members
  | _ => cases h

theorem Reachable.wellNamed {schema : Schema} (h : schema.Reachable) : schema.WellNamed := by
  induction h with
  | empty => exact wellNamed_empty
  | @ofText text schema h =>
    unfold Schema.ofText at h
    split at h
    · cases h
    · exact wellNamed_of_ofJson h
  | ofJson h => exact wellNamed_of_ofJson h
  | ofPairs h => exact wellNamed_foldlM_add _ wellNamed_empty h
  | add _ h ih => exact wellNamed_add ih h

theorem readFields_strings {pairs : List (String × String)} (h : "" ∉ Entries.names pairs) :
    readFields (pairs.map Json.stringMember) = .ok pairs := by
  induction pairs with
  | nil => rfl
  | cons pair pairs ih =>
    rw [Entries.names, List.map_cons, List.mem_cons, not_or] at h
    have hname : pair.1.isEmpty = false := by
      rw [Bool.eq_false_iff]
      exact fun hempty => h.1 (by simpa using hempty.symm)
    rw [List.map_cons, Json.stringMember, readFields, hname, ih h.2]
    rfl

/-- An object of strings is a schema, if its names are distinct and none is empty. -/
theorem ofJson_strings {pairs : List (String × String)} (hnodup : (Entries.names pairs).Nodup)
    (hnonempty : "" ∉ Entries.names pairs) :
    Schema.ofJson (.object (pairs.map Json.stringMember)) = .ok ⟨pairs⟩ := by
  have hnames : Entries.names (pairs.map Json.stringMember) = Entries.names pairs := by
    rw [Entries.names, Entries.names, List.map_map]
    rfl
  rw [ofJson, Entries.collapse_of_nodup (by rwa [hnames]), readFields_strings hnonempty]
  rfl

end Schema

end Fixture
