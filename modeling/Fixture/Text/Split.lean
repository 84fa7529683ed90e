/-!
# Cutting texts

`cut?` cuts a text at the first occurrence of a character, `pieces` at every one of them,
and `joined` puts pieces together again. The pieces of a text are never none: an empty text
is one empty piece. Joining the pieces of a text gives the text, and cutting joined pieces
gives the pieces if there is one and none of them holds the character.
-/

namespace Fixture.Text

/-- What stands before the first `d` of a text and what stands after it. -/
def cut? (d : Char) : List Char → Option (List Char × List Char)
  | [] => none
  | c :: cs => if c = d then some ([], cs) else (cut? d cs).map fun p => (c :: p.1, p.2)

def pieces (d : Char) : List Char → List (List Char)
  | [] => [[]]
  | c :: cs => if c = d then [] :: pieces d cs else (pieces d cs).modifyHead (c :: ·)

def joined (d : Char) (parts : List (List Char)) : List Char :=
  [d].intercalate parts

theorem cut?_eq_none_iff {d : Char} {cs : List Char} : cut? d cs = none ↔ d ∉ cs := by
  induction cs with
  | nil => simp [cut?]
  | cons c cs ih =>
    by_cases h : c = d
    · simp [cut?, h]
    · simp [cut?, h, ih, Ne.symm h]

theorem cut?_eq_some_iff {d : Char} {cs before after : List Char} :
    cut? d cs = some (before, after) ↔ cs = before ++ d :: after ∧ d ∉ before := by
  induction cs generalizing before with
  | nil => simp [cut?]
  | cons c cs ih =>
    by_cases h : c = d
    · subst h
      cases before with
      | nil => simp [cut?, eq_comm]
      | cons b before => simp +contextual [cut?]
    · cases before with
      | nil => simp [cut?, h]
      | cons b before =>
        simp only [cut?, h, if_false, Option.map_eq_some_iff, Prod.mk.injEq, List.cons.injEq,
          List.cons_append, List.mem_cons, not_or, Prod.exists]
        constructor
        · rintro ⟨a, r, ha, ⟨rfl, rfl⟩, rfl⟩
          obtain ⟨rfl, hd⟩ := ih.1 ha
          exact ⟨⟨rfl, rfl⟩, Ne.symm h, hd⟩
        · rintro ⟨⟨rfl, rfl⟩, _, hd⟩
          exact ⟨before, after, ih.2 ⟨rfl, hd⟩, ⟨rfl, rfl⟩, rfl⟩

theorem pieces_ne_nil (d : Char) (cs : List Char) : pieces d cs ≠ [] := by
  induction cs with
  | nil => simp [pieces]
  | cons c cs ih =>
    by_cases h : c = d
    · simp [pieces, h]
    · cases hp : pieces d cs with
      | nil => exact absurd hp ih
      | cons p ps => simp [pieces, h, hp]

@[simp] theorem joined_singleton (d : Char) (part : List Char) : joined d [part] = part := by
  simp [joined, List.intercalate]

theorem joined_cons {d : Char} {parts : List (List Char)} (h : parts ≠ []) (part : List Char) :
    joined d (part :: parts) = part ++ d :: joined d parts := by
  cases parts with
  | nil => exact absurd rfl h
  | cons next parts => simp [joined, List.intercalate]

theorem pieces_of_not_mem {d : Char} {cs : List Char} (h : d ∉ cs) : pieces d cs = [cs] := by
  induction cs with
  | nil => rfl
  | cons c cs ih =>
    rw [List.mem_cons, not_or] at h
    simp [pieces, Ne.symm h.1, ih h.2]

theorem pieces_append_cons {d : Char} {part : List Char} (h : d ∉ part) (cs : List Char) :
    pieces d (part ++ d :: cs) = part :: pieces d cs := by
  induction part with
  | nil => simp [pieces]
  | cons c part ih =>
    rw [List.mem_cons, not_or] at h
    simp [pieces, Ne.symm h.1, ih h.2]

/-- Cutting a text loses nothing but what it is cut at. -/
theorem joined_pieces (d : Char) (cs : List Char) : joined d (pieces d cs) = cs := by
  induction cs with
  | nil => simp [pieces]
  | cons c cs ih =>
    by_cases h : c = d
    · simp [pieces, h, joined_cons (pieces_ne_nil d cs), ih]
    · cases hp : pieces d cs with
      | nil => exact absurd hp (pieces_ne_nil d cs)
      | cons part parts =>
        rw [hp] at ih
        rw [pieces, if_neg h, hp, List.modifyHead_cons, ← ih]
        cases parts with
        | nil => simp
        | cons next parts => simp [joined_cons]

theorem pieces_joined {d : Char} {parts : List (List Char)} (hne : parts ≠ [])
    (h : ∀ part ∈ parts, d ∉ part) : pieces d (joined d parts) = parts := by
  induction parts with
  | nil => exact absurd rfl hne
  | cons part parts ih =>
    cases parts with
    | nil => simp [pieces_of_not_mem (h part (by simp))]
    | cons next parts =>
      rw [joined_cons (by simp), pieces_append_cons (h part (by simp)),
        ih (by simp) fun q hq => h q (by simp [hq])]

end Fixture.Text
