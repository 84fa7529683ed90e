/-!
# Entries

Entries bind names in order. Binding a name that is bound already replaces what it is bound
to and leaves it where it stands; any other name comes last. So the names of entries that
were made by `put` are distinct, in the order of their first binding, and each keeps what it
was bound to last.
-/

namespace Fixture

/-- Names with what they are bound to, in order. -/
abbrev Entries (α : Type) := List (String × α)

namespace Entries

variable {α : Type}

def names (entries : Entries α) : List String :=
  entries.map Prod.fst

/-- What the first entry of that name binds it to. -/
def get? : Entries α → String → Option α
  | [], _ => none
  | (other, a) :: rest, name => if other = name then some a else get? rest name

def put : Entries α → String → α → Entries α
  | [], name, a => [(name, a)]
  | (other, b) :: rest, name, a =>
    if other = name then (other, a) :: rest else (other, b) :: put rest name a

def collapse (bindings : List (String × α)) : Entries α :=
  bindings.foldl (fun entries binding => put entries binding.1 binding.2) []

@[simp] theorem get?_nil (name : String) : get? ([] : Entries α) name = none := rfl

@[simp] theorem put_nil (name : String) (a : α) : put [] name a = [(name, a)] := rfl

theorem put_cons (other : String) (b : α) (rest : Entries α) (name : String) (a : α) :
    put ((other, b) :: rest) name a =
      if other = name then (other, a) :: rest else (other, b) :: put rest name a := rfl

/-- A name that is bound already keeps its place; any other is added at the end. -/
theorem names_put (entries : Entries α) (name : String) (a : α) :
    names (put entries name a) =
      if name ∈ names entries then names entries else names entries ++ [name] := by
  induction entries with
  | nil => simp [names]
  | cons entry rest ih =>
    obtain ⟨other, b⟩ := entry
    simp only [names, List.map_cons, List.mem_cons] at ih ⊢
    by_cases h : other = name
    · simp [put_cons, h]
    · simp only [put_cons, h, if_false, List.map_cons, ih, Ne.symm h, false_or]
      by_cases hm : name ∈ List.map Prod.fst rest <;> simp [hm]

theorem get?_put_self (entries : Entries α) (name : String) (a : α) :
    get? (put entries name a) name = some a := by
  induction entries with
  | nil => simp [get?]
  | cons entry rest ih =>
    obtain ⟨other, b⟩ := entry
    by_cases h : other = name <;> simp [put_cons, get?, h, ih]

theorem get?_put_of_ne (entries : Entries α) {name other : String} (h : other ≠ name)
    (a : α) : get? (put entries name a) other = get? entries other := by
  induction entries with
  | nil => simp [get?, Ne.symm h]
  | cons entry rest ih =>
    obtain ⟨first, b⟩ := entry
    by_cases hf : first = name
    · subst hf
      simp [put_cons, get?, Ne.symm h]
    · simp only [put_cons, hf, if_false, get?, ih]

theorem nodup_names_put {entries : Entries α} (h : (names entries).Nodup)
    (name : String) (a : α) : (names (put entries name a)).Nodup := by
  rw [names_put]
  split
  · exact h
  · rename_i hn
    exact List.nodup_append.2 ⟨h, by simp, by
      intro x hx y hy
      rw [List.mem_singleton.1 hy]
      exact fun he => hn (he ▸ hx)⟩

theorem nodup_names_collapse (bindings : List (String × α)) :
    (names (collapse bindings)).Nodup := by
  have h (entries : Entries α) (hn : (names entries).Nodup) :
      (names (bindings.foldl (fun entries binding => put entries binding.1 binding.2)
        entries)).Nodup := by
    induction bindings generalizing entries with
    | nil => exact hn
    | cons binding bindings ih => exact ih _ (nodup_names_put hn binding.1 binding.2)
  exact h [] List.nodup_nil

end Entries

end Fixture
