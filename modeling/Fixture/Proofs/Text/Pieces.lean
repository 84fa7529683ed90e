import Fixture.Text.Split

/-!
# The parts of a cut text

No part holds the character at which a text was cut, and the characters of joined parts are
those of the parts and the one between them.
-/

namespace Fixture.Text

theorem not_mem_of_mem_pieces {d : Char} {cs part : List Char} (h : part ∈ pieces d cs) :
    d ∉ part := by
  induction cs generalizing part with
  | nil =>
    rw [pieces, List.mem_singleton] at h
    rw [h]
    exact List.not_mem_nil
  | cons c cs ih =>
    by_cases hc : c = d
    · rw [pieces, if_pos hc] at h
      rcases List.mem_cons.1 h with rfl | hrest
      · exact List.not_mem_nil
      · exact ih hrest
    · rw [pieces, if_neg hc] at h
      cases hp : pieces d cs with
      | nil => exact absurd hp (pieces_ne_nil d cs)
      | cons first rest =>
        rw [hp, List.modifyHead_cons] at h
        rcases List.mem_cons.1 h with rfl | hrest
        · have hfirst : d ∉ first := ih (hp ▸ List.mem_cons_self)
          rw [List.mem_cons, not_or]
          exact ⟨Ne.symm hc, hfirst⟩
        · exact ih (hp ▸ List.mem_cons_of_mem first hrest)

theorem mem_joined_iff {d c : Char} {parts : List (List Char)} (hd : c ≠ d) :
    c ∈ joined d parts ↔ ∃ part ∈ parts, c ∈ part := by
  induction parts with
  | nil => simp [joined]
  | cons part parts ih =>
    cases parts with
    | nil => simp
    | cons next parts =>
      rw [joined_cons (List.cons_ne_nil next parts), List.mem_append, List.mem_cons, ih]
      simp [hd]

theorem length_le_length_joined (d : Char) {part : List Char} {parts : List (List Char)}
    (h : part ∈ parts) : part.length ≤ (joined d parts).length := by
  induction parts with
  | nil => exact absurd h List.not_mem_nil
  | cons first parts ih =>
    by_cases hnil : parts = []
    · rw [hnil, List.mem_singleton] at h
      rw [hnil, joined_singleton]
      exact Nat.le_of_eq (congrArg List.length h)
    · rw [joined_cons hnil, List.length_append, List.length_cons]
      rcases List.mem_cons.1 h with rfl | hrest
      · exact Nat.le_add_right _ _
      · have hle := ih hrest
        omega

end Fixture.Text
