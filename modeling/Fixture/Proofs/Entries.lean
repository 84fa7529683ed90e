import Fixture.Entries
import Mathlib.Data.List.Induction

/-!
# Names in the order of binding

Binding a name that is not bound yet adds an entry at the end, and taking the entries of that
name away gives back what was there. So names that are all distinct keep their places when
they are bound one after the other. Whatever names are bound, in the end they stand in the
order in which each was bound first, and each is bound to what it was bound to last.
-/

namespace Fixture

namespace Entries

variable {α β : Type}

theorem put_of_not_mem {entries : Entries α} {name : String} (h : name ∉ names entries)
    (a : α) : put entries name a = entries ++ [(name, a)] := by
  induction entries with
  | nil => rfl
  | cons entry rest ih =>
    obtain ⟨other, b⟩ := entry
    rw [names, List.map_cons, List.mem_cons, not_or] at h
    rw [put_cons, if_neg (Ne.symm h.1), ih h.2, List.cons_append]

theorem collapse_of_nodup {bindings : List (String × α)} (h : (names bindings).Nodup) :
    collapse bindings = bindings := by
  have hfold (entries : Entries α) (hnodup : (names (entries ++ bindings)).Nodup) :
      bindings.foldl (fun entries binding => put entries binding.1 binding.2) entries =
        entries ++ bindings := by
    clear h
    induction bindings generalizing entries with
    | nil => simp
    | cons binding bindings ih =>
      have hmem : binding.1 ∉ names entries := by
        intro hmem
        rw [names, List.map_append, List.map_cons, List.nodup_append] at hnodup
        exact hnodup.2.2 _ hmem _ List.mem_cons_self rfl
      rw [List.foldl_cons, put_of_not_mem hmem]
      have hassoc : entries ++ [(binding.1, binding.2)] ++ bindings =
          entries ++ binding :: bindings := by simp
      rw [ih _ (by rwa [hassoc]), hassoc]
  exact hfold [] h

theorem get?_eq_none_of_not_mem {entries : Entries α} {name : String}
    (h : name ∉ names entries) : get? entries name = none := by
  induction entries with
  | nil => rfl
  | cons entry rest ih =>
    rw [names, List.map_cons, List.mem_cons, not_or] at h
    rw [get?, if_neg (Ne.symm h.1), ih h.2]

theorem filter_put_of_not_mem {entries : Entries α} {name : String} (h : name ∉ names entries)
    (a : α) : (put entries name a).filter (fun entry => entry.1 ≠ name) = entries := by
  have hkept : entries.filter (fun entry => entry.1 ≠ name) = entries := by
    rw [List.filter_eq_self]
    intro entry hentry
    rw [decide_eq_true_eq]
    exact fun heq => h (heq ▸ List.mem_map_of_mem hentry)
  rw [put_of_not_mem h, List.filter_append, hkept]
  simp

/-! Bindings made one after the other -/

theorem collapse_append_eq_foldl (first second : List (String × α)) :
    collapse (first ++ second) =
      second.foldl (fun entries binding => put entries binding.1 binding.2)
        (collapse first) := by
  rw [collapse, List.foldl_append, ← collapse]

theorem collapse_concat (bindings : List (String × α)) (binding : String × α) :
    collapse (bindings ++ [binding]) = put (collapse bindings) binding.1 binding.2 := by
  rw [collapse_append_eq_foldl, List.foldl_cons, List.foldl_nil]

theorem eraseDups_concat (ns : List String) (name : String) :
    (ns ++ [name]).eraseDups =
      if name ∈ ns.eraseDups then ns.eraseDups else ns.eraseDups ++ [name] := by
  rw [List.eraseDups_append]
  by_cases h : name ∈ ns
  · simp [List.removeAll, h]
  · simp [List.removeAll, List.eraseDups_cons, h]

/-- Names stand in the order in which they were bound first. -/
theorem names_collapse (bindings : List (String × α)) :
    names (collapse bindings) = (names bindings).eraseDups := by
  induction bindings using List.reverseRecOn with
  | nil => rfl
  | append_singleton bindings binding ih =>
    rw [collapse_concat, names_put, ih]
    rw [names, names, List.map_append, List.map_singleton, eraseDups_concat]

/-- A name is bound to what it was bound to last. -/
theorem get?_collapse (bindings : List (String × α)) (name : String) :
    get? (collapse bindings) name = get? bindings.reverse name := by
  induction bindings using List.reverseRecOn with
  | nil => rfl
  | append_singleton bindings binding ih =>
    rw [collapse_concat, List.reverse_append, List.reverse_singleton, List.singleton_append]
    by_cases h : name = binding.1
    · rw [h, get?_put_self, get?, if_pos rfl]
    · rw [get?_put_of_ne _ h, ih, get?, if_neg (Ne.symm h)]

theorem put_map (f : α → β) (entries : Entries α) (name : String) (a : α) :
    put (entries.map (Prod.map id f)) name (f a) = (put entries name a).map (Prod.map id f) := by
  induction entries with
  | nil => rfl
  | cons entry rest ih =>
    obtain ⟨other, b⟩ := entry
    rw [List.map_cons, Prod.map_apply, put_cons, put_cons, ih]
    by_cases h : other = name
    · rw [id, if_pos h, if_pos h]; rfl
    · rw [id, if_neg h, if_neg h]; rfl

theorem collapse_map (f : α → β) (bindings : List (String × α)) :
    collapse (bindings.map (Prod.map id f)) = (collapse bindings).map (Prod.map id f) := by
  induction bindings using List.reverseRecOn with
  | nil => rfl
  | append_singleton bindings binding ih =>
    rw [List.map_append, List.map_singleton, collapse_concat, collapse_concat, ih, ← put_map]
    rfl

theorem get?_eq_some_iff {entries : Entries α} (h : (names entries).Nodup) {name : String}
    {a : α} : get? entries name = some a ↔ (name, a) ∈ entries := by
  induction entries with
  | nil => simp
  | cons entry rest ih =>
    obtain ⟨other, b⟩ := entry
    rw [names, List.map_cons, List.nodup_cons] at h
    rw [get?, List.mem_cons, Prod.mk.injEq, ← ih h.2]
    by_cases hname : other = name
    · subst hname
      have hnone : get? rest other = none := get?_eq_none_of_not_mem h.1
      simp [hnone, eq_comm]
    · simp [hname, Ne.symm hname]

theorem mem_collapse_iff {bindings : List (String × α)} {name : String} {a : α} :
    (name, a) ∈ collapse bindings ↔ get? bindings.reverse name = some a := by
  rw [← get?_eq_some_iff (nodup_names_collapse bindings), get?_collapse]

theorem mem_names_collapse_iff {bindings : List (String × α)} {name : String} :
    name ∈ names (collapse bindings) ↔ name ∈ names bindings := by
  rw [names_collapse, List.mem_eraseDups]

end Entries

end Fixture
