import Fixture.Proofs.Json.Accepted
import Fixture.Proofs.Schema.OrderedMap

/-!
# Loading a schema from text and from pairs

Pairs are bound one after the other and each name is looked at when it is bound. A text is
read whole, its repeated names are brought together, and only then is each member looked at.
On an object of strings the two ways agree all the same. In any object the values that count
are the last ones of their names, and the names are looked at in the order in which each came
first.
-/

namespace Fixture

namespace Schema

def IsField (name : String) (value : Json) : Prop :=
  name ≠ "" ∧ ∃ invocation, value = .string invocation

/-- What is wrong with a member that is no field. The name counts before the value. -/
inductive Offends : String → Json → SchemaError → Prop
  | noName {value : Json} : Offends "" value .emptyFieldName
  | noInvocation {name : String} {value : Json} (hname : name ≠ "")
      (hvalue : ∀ invocation, value ≠ .string invocation) :
      Offends name value (.notAnInvocation name value.kind)

theorem Offends.not_isField {name : String} {value : Json} {error : SchemaError}
    (h : Offends name value error) : ¬ IsField name value := by
  rintro ⟨hname, invocation, hvalue⟩
  cases h with
  | noName => exact hname rfl
  | noInvocation _ hother => exact hother invocation hvalue

section ReadFields

variable {name : String} {value : Json} {error : SchemaError}

theorem readFields_cons_of_isField {invocation : String} (hname : name ≠ "")
    (rest : Entries Json) :
    readFields ((name, .string invocation) :: rest) =
      (readFields rest).map ((name, invocation) :: ·) := by
  have hempty : name.isEmpty = false := by simpa using hname
  rw [readFields, hempty]
  rfl

theorem readFields_cons_of_offends (h : Offends name value error) (rest : Entries Json) :
    readFields ((name, value) :: rest) = .error error := by
  cases h with
  | noName => rfl
  | noInvocation hname hvalue =>
    have hempty : name.isEmpty = false := by simpa using hname
    cases value with
    | string invocation => exact absurd rfl (hvalue invocation)
    | _ =>
      rw [readFields, hempty]
      · rfl
      · exact hvalue

theorem isField_or_exists_offends (name : String) (value : Json) :
    IsField name value ∨ ∃ error, Offends name value error := by
  by_cases hname : name = ""
  · subst hname
    exact .inr ⟨_, .noName⟩
  · by_cases hvalue : ∃ invocation, value = .string invocation
    · exact .inl ⟨hname, hvalue⟩
    · exact .inr ⟨_, .noInvocation hname fun invocation heq => hvalue ⟨invocation, heq⟩⟩

/-- The error is that of the first member that is no field. -/
def FirstOffends (members : Entries Json) (error : SchemaError) : Prop :=
  ∃ before name value after, members = before ++ (name, value) :: after ∧
    Offends name value error ∧ ∀ member ∈ before, IsField member.1 member.2

theorem firstOffends_cons_of_isField (h : IsField name value) (rest : Entries Json) :
    FirstOffends ((name, value) :: rest) error ↔ FirstOffends rest error := by
  constructor
  · rintro ⟨before, bad, worse, after, hsplit, hbad, hgood⟩
    cases before with
    | nil =>
      cases hsplit
      exact absurd h hbad.not_isField
    | cons first before =>
      cases hsplit
      exact ⟨before, bad, worse, after, rfl, hbad, (List.forall_mem_cons.1 hgood).2⟩
  · rintro ⟨before, bad, worse, after, rfl, hbad, hgood⟩
    exact ⟨(name, value) :: before, bad, worse, after, rfl, hbad,
      List.forall_mem_cons.2 ⟨h, hgood⟩⟩

theorem firstOffends_cons_of_offends {found : SchemaError} (h : Offends name value found)
    (rest : Entries Json) :
    FirstOffends ((name, value) :: rest) error ↔ Offends name value error := by
  constructor
  · rintro ⟨before, bad, worse, after, hsplit, hbad, hgood⟩
    cases before with
    | nil =>
      cases hsplit
      exact hbad
    | cons first before =>
      cases hsplit
      exact absurd (List.forall_mem_cons.1 hgood).1 h.not_isField
  · intro hbad
    exact ⟨[], name, value, rest, rfl, hbad, fun _ hmem => absurd hmem List.not_mem_nil⟩

theorem readFields_eq_error_iff {members : Entries Json} :
    readFields members = .error error ↔ FirstOffends members error := by
  induction members with
  | nil => simp [readFields, FirstOffends]
  | cons member rest ih =>
    obtain ⟨name, value⟩ := member
    rcases isField_or_exists_offends name value with hfield | ⟨found, hoffends⟩
    · rw [firstOffends_cons_of_isField hfield, ← ih]
      obtain ⟨hname, invocation, rfl⟩ := hfield
      rw [readFields_cons_of_isField hname]
      cases readFields rest <;> simp [Except.map]
    · have hfound := readFields_cons_of_offends hoffends rest
      rw [firstOffends_cons_of_offends hoffends, hfound]
      constructor
      · intro h
        cases h
        exact hoffends
      · intro h
        rw [← hfound]
        exact readFields_cons_of_offends h rest

theorem readFields_strings_of_mem {pairs : List (String × String)}
    (h : "" ∈ Entries.names pairs) :
    readFields (pairs.map Json.stringMember) = .error .emptyFieldName := by
  induction pairs with
  | nil => cases h
  | cons pair pairs ih =>
    rw [List.map_cons, Json.stringMember]
    by_cases hname : pair.1 = ""
    · rw [hname]
      exact readFields_cons_of_offends .noName _
    · rw [Entries.names, List.map_cons, List.mem_cons] at h
      rw [readFields_cons_of_isField hname, ih (h.resolve_left (Ne.symm hname))]
      rfl

end ReadFields

section OfText

variable {text : String} {members : List (String × Json)}

theorem ofText_eq_map (h : Json.Spells text (.object members)) :
    Schema.ofText text = (readFields (Entries.collapse members)).map Schema.mk := by
  rw [ofText, Json.read_of_spells h]
  rfl

/-- An object of strings is loaded as its members are, one after the other. -/
theorem ofText_eq_ofPairs {pairs : List (String × String)}
    (h : Json.Spells text (.object (pairs.map Json.stringMember))) :
    Schema.ofText text = Schema.ofPairs pairs := by
  have hcollapse : Entries.collapse (pairs.map Json.stringMember) =
      (Entries.collapse pairs).map Json.stringMember := Entries.collapse_map Json.string pairs
  rw [ofText_eq_map h, hcollapse, ofPairs_eq]
  by_cases hempty : "" ∈ Entries.names pairs
  · rw [if_pos hempty, readFields_strings_of_mem (Entries.mem_names_collapse_iff.2 hempty)]
    rfl
  · rw [if_neg hempty, readFields_strings (mt Entries.mem_names_collapse_iff.1 hempty)]
    rfl

/-- A text is refused with the error of the first name, in the order of first places, whose
last value makes no field. -/
theorem ofText_eq_error_iff (h : Json.Spells text (.object members)) {error : SchemaError} :
    Schema.ofText text = .error error ↔
      ∃ before name after value,
        (Entries.names members).eraseDups = before ++ name :: after ∧
        Entries.get? members.reverse name = some value ∧ Offends name value error ∧
        ∀ other ∈ before, ∃ last,
          Entries.get? members.reverse other = some last ∧ IsField other last := by
  have hmap : Schema.ofText text = .error error ↔
      readFields (Entries.collapse members) = .error error := by
    rw [ofText_eq_map h]
    cases readFields (Entries.collapse members) <;> simp [Except.map]
  rw [hmap, readFields_eq_error_iff, FirstOffends, ← Entries.names_collapse]
  constructor
  · rintro ⟨before, name, value, after, hsplit, hbad, hgood⟩
    have hmem (member : String × Json) (hmember : member ∈ before ++ (name, value) :: after) :
        Entries.get? members.reverse member.1 = some member.2 :=
      Entries.mem_collapse_iff.1 (hsplit ▸ hmember)
    refine ⟨Entries.names before, name, Entries.names after, value, ?_,
      hmem (name, value) (by simp), hbad, ?_⟩
    · rw [hsplit]
      simp [Entries.names]
    · intro other hother
      obtain ⟨member, hmember, rfl⟩ := List.mem_map.1 hother
      exact ⟨member.2, hmem member (List.mem_append_left _ hmember), hgood member hmember⟩
  · rintro ⟨before, name, after, value, hsplit, hlast, hbad, hgood⟩
    obtain ⟨early, late, hentries, rfl, hlate⟩ := List.map_eq_append_iff.1 hsplit
    obtain ⟨member, late, rfl, rfl, rfl⟩ := List.map_eq_cons_iff.1 hlate
    have hmem (entry : String × Json) (hentry : entry ∈ early ++ member :: late) :
        Entries.get? members.reverse entry.1 = some entry.2 :=
      Entries.mem_collapse_iff.1 (hentries ▸ hentry)
    have hvalue : member.2 = value := by
      rw [hmem member (by simp), Option.some.injEq] at hlast
      exact hlast
    refine ⟨early, member.1, value, late, hvalue ▸ hentries, hbad, ?_⟩
    intro entry hentry
    obtain ⟨last, hget, hfield⟩ := hgood entry.1 (List.mem_map_of_mem hentry)
    rw [hmem entry (List.mem_append_left _ hentry), Option.some.injEq] at hget
    rwa [hget]

theorem collapse_eq_map_of_ofText (h : Json.Spells text (.object members)) {schema : Schema}
    (hload : Schema.ofText text = .ok schema) :
    Entries.collapse members = schema.fields.map Json.stringMember := by
  rw [ofText, Json.read_of_spells h] at hload
  exact (of_readFields_eq_ok (readFields_of_ofJson hload)).1

theorem exists_ofText_iff (h : Json.Spells text (.object members)) :
    (∃ schema, Schema.ofText text = .ok schema) ↔
      ∀ name ∈ Entries.names members, ∃ last,
        Entries.get? members.reverse name = some last ∧ IsField name last := by
  constructor
  · rintro ⟨schema, hload⟩ name hname
    have hentries := collapse_eq_map_of_ofText h hload
    obtain ⟨entry, hentry, rfl⟩ := List.mem_map.1 (Entries.mem_names_collapse_iff.2 hname)
    refine ⟨entry.2, Entries.mem_collapse_iff.1 hentry, ?_⟩
    rw [hentries] at hentry
    obtain ⟨field, hfield, rfl⟩ := List.mem_map.1 hentry
    have hnonempty := (Reachable.ofText hload).wellNamed.nonempty
    refine ⟨?_, field.2, rfl⟩
    intro hempty
    exact hnonempty (hempty ▸ List.mem_map_of_mem hfield)
  · intro hall
    cases hload : Schema.ofText text with
    | ok schema => exact ⟨schema, rfl⟩
    | error error =>
      obtain ⟨before, name, after, value, hsplit, hlast, hbad, _⟩ :=
        (ofText_eq_error_iff h).1 hload
      have hname : name ∈ Entries.names members := by
        rw [← List.mem_eraseDups, hsplit]
        simp
      obtain ⟨last, hget, hfield⟩ := hall name hname
      rw [hlast, Option.some.injEq] at hget
      exact absurd (hget ▸ hfield) hbad.not_isField

theorem names_of_ofText (h : Json.Spells text (.object members)) {schema : Schema}
    (hload : Schema.ofText text = .ok schema) :
    schema.names = (Entries.names members).eraseDups := by
  rw [← Entries.names_collapse, collapse_eq_map_of_ofText h hload, Entries.names, List.map_map]
  rfl

theorem get?_of_ofText (h : Json.Spells text (.object members)) {schema : Schema}
    (hload : Schema.ofText text = .ok schema) (name invocation : String) :
    schema.get? name = some invocation ↔
      Entries.get? members.reverse name = some (.string invocation) := by
  have hnodup := (Reachable.ofText hload).wellNamed.nodup
  rw [get?, Entries.get?_eq_some_iff hnodup, ← Entries.mem_collapse_iff,
    collapse_eq_map_of_ofText h hload]
  constructor
  · exact List.mem_map_of_mem
  · intro hmem
    obtain ⟨field, hfield, heq⟩ := List.mem_map.1 hmem
    cases heq
    exact hfield

end OfText

end Schema

/-- If all members of an object are strings, its text loads as the pairs of its members do:
the same schema, or the error for an empty name if there is one. In any object the last value
of each name counts. The text loads exactly if each name is not empty and its last value is a
string; the schema then has the names in the order in which they came first. Otherwise the
first name in that order for which this fails gives the error, its emptiness before its
value. -/
theorem loaders_agree {text : String} {members : List (String × Json)}
    (h : Json.Spells text (.object members)) :
    (∀ pairs : List (String × String), members = pairs.map Json.stringMember →
      Schema.ofText text = Schema.ofPairs pairs ∧
      (Schema.ofText text = .error .emptyFieldName ↔ "" ∈ Entries.names pairs) ∧
      ("" ∉ Entries.names pairs → ∃ schema, Schema.ofText text = .ok schema)) ∧
    ((∃ schema, Schema.ofText text = .ok schema) ↔
      ∀ name ∈ Entries.names members, ∃ last,
        Entries.get? members.reverse name = some last ∧ Schema.IsField name last) ∧
    (∀ schema, Schema.ofText text = .ok schema →
      schema.names = (Entries.names members).eraseDups ∧
      ∀ name invocation, schema.get? name = some invocation ↔
        Entries.get? members.reverse name = some (.string invocation)) ∧
    ∀ error, Schema.ofText text = .error error ↔
      ∃ before name after value,
        (Entries.names members).eraseDups = before ++ name :: after ∧
        Entries.get? members.reverse name = some value ∧
        Schema.Offends name value error ∧
        ∀ other ∈ before, ∃ last,
          Entries.get? members.reverse other = some last ∧ Schema.IsField other last := by
  refine ⟨?_, Schema.exists_ofText_iff h, ?_, fun error => Schema.ofText_eq_error_iff h⟩
  · rintro pairs rfl
    have hsame := Schema.ofText_eq_ofPairs h
    refine ⟨hsame, ?_, ?_⟩
    · rw [hsame, Schema.ofPairs_eq]
      by_cases hempty : "" ∈ Entries.names pairs <;> simp [hempty]
    · intro hnonempty
      rw [hsame, Schema.ofPairs_eq, if_neg hnonempty]
      exact ⟨_, rfl⟩
  · intro schema hload
    exact ⟨Schema.names_of_ofText h hload, Schema.get?_of_ofText h hload⟩

/-- A name that comes twice keeps its first place. A number that a string replaces later does
no harm, and the array is found before the empty name. -/
theorem loaders_agree_rebound :
    (Schema.ofText "\x7b\"b\": \"getInt()\", \"a\": \"\", \"b\": \"getName()\"\x7d" =
        Schema.ofPairs [("b", "getInt()"), ("a", ""), ("b", "getName()")] ∧
      ∃ schema, Schema.ofPairs [("b", "getInt()"), ("a", ""), ("b", "getName()")] = .ok schema ∧
        schema.names = ["b", "a"] ∧ schema.get? "b" = some "getName()") ∧
    Schema.ofText "\x7b\"b\": 1, \"a\": \"x\",\n\"b\": \"y\", \"\\u0063\": [true], \"\": 0\x7d" =
      .error (.notAnInvocation "c" "an array") := by
  constructor
  · have hspells : Json.Spells "\x7b\"b\": \"getInt()\", \"a\": \"\", \"b\": \"getName()\"\x7d"
        (.object [("b", .string "getInt()"), ("a", .string ""), ("b", .string "getName()")]) :=
      Json.read_eq_ok_iff.1 (by decide +kernel)
    obtain ⟨hpairs, _, hloaded, _⟩ := loaders_agree hspells
    obtain ⟨hsame, _, hexists⟩ :=
      hpairs [("b", "getInt()"), ("a", ""), ("b", "getName()")] rfl
    obtain ⟨schema, hload⟩ := hexists (by decide)
    obtain ⟨hnames, hget⟩ := hloaded schema hload
    exact ⟨hsame, schema, hsame ▸ hload, hnames, (hget "b" "getName()").2 rfl⟩
  · have hspells : Json.Spells
        "\x7b\"b\": 1, \"a\": \"x\",\n\"b\": \"y\", \"\\u0063\": [true], \"\": 0\x7d"
        (.object [("b", .int 1), ("a", .string "x"), ("b", .string "y"),
          ("c", .array [.bool true]), ("", .int 0)]) :=
      Json.read_eq_ok_iff.1 (by decide +kernel)
    obtain ⟨_, _, _, herror⟩ := loaders_agree hspells
    refine (herror _).2 ⟨["b", "a"], "c", [""], .array [.bool true], by decide, rfl,
      .noInvocation (by decide) (fun _ heq => nomatch heq), ?_⟩
    intro other hother
    simp only [List.mem_cons, List.not_mem_nil, or_false] at hother
    rcases hother with rfl | rfl
    · exact ⟨.string "y", rfl, by decide, _, rfl⟩
    · exact ⟨.string "x", rfl, by decide, _, rfl⟩

end Fixture
