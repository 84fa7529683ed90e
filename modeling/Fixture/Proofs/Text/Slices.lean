import Fixture.Text.Position
import Fixture.Text.Split

/-!
# Slices of texts

A slice is given by the bytes at which it begins and ends. There is none if one of these lies
behind the end of the text or within a character, or if the end comes before the beginning.
What is around the first occurrence of a character can be had as slices.
-/

namespace Fixture.Text

/-- What stands before a byte and from it on, if no character has the byte within it. -/
def splitAt? : List Char → Nat → Option (List Char × List Char)
  | cs, 0 => some ([], cs)
  | [], _ + 1 => none
  | c :: cs, place + 1 =>
    if c.utf8Size ≤ place + 1 then
      (splitAt? cs (place + 1 - c.utf8Size)).map fun p => (c :: p.1, p.2)
    else none

/-- The part of a text from one byte to another. -/
def slice? (cs : List Char) (start stop : Nat) : Option (List Char) := do
  let (front, _) ← splitAt? cs stop
  let (_, part) ← splitAt? front start
  return part

/-- The byte at which the first `d` begins. -/
def find? (d : Char) : List Char → Option Nat
  | [] => none
  | c :: cs => if c = d then some 0 else (find? d cs).map (· + c.utf8Size)

theorem splitAt?_zero (cs : List Char) : splitAt? cs 0 = some ([], cs) := by
  cases cs <;> rfl

theorem splitAt?_cons {c : Char} {place : Nat} (h : c.utf8Size ≤ place) (cs : List Char) :
    splitAt? (c :: cs) place =
      (splitAt? cs (place - c.utf8Size)).map fun p => (c :: p.1, p.2) := by
  have hpos := c.utf8Size_pos
  cases place with
  | zero => omega
  | succ place => rw [splitAt?, if_pos h]

theorem splitAt?_append (before after : List Char) :
    splitAt? (before ++ after) (byteCount before) = some (before, after) := by
  induction before with
  | nil => exact splitAt?_zero after
  | cons c before ih =>
    rw [List.cons_append, byteCount_cons, splitAt?_cons (Nat.le_add_right _ _),
      Nat.add_sub_cancel_left, ih]
    rfl

theorem eq_append_of_splitAt? {cs before after : List Char} {place : Nat}
    (h : splitAt? cs place = some (before, after)) :
    cs = before ++ after ∧ byteCount before = place := by
  induction cs generalizing before place with
  | nil =>
    cases place with
    | zero =>
      cases h
      exact ⟨rfl, rfl⟩
    | succ place => cases h
  | cons c cs ih =>
    cases place with
    | zero =>
      cases h
      exact ⟨rfl, rfl⟩
    | succ place =>
      rw [splitAt?, Option.ite_none_right_eq_some, Option.map_eq_some_iff] at h
      obtain ⟨hsize, ⟨front, back⟩, hsplit, hparts⟩ := h
      cases hparts
      obtain ⟨rfl, hfront⟩ := ih hsplit
      refine ⟨rfl, ?_⟩
      rw [byteCount_cons, hfront]
      omega

/-- A slice is the part of the text that lies between its two bytes. -/
theorem slice?_eq_some_iff {cs part : List Char} {start stop : Nat} :
    slice? cs start stop = some part ↔
      ∃ before after, cs = before ++ part ++ after ∧ byteCount before = start ∧
        byteCount (before ++ part) = stop := by
  constructor
  · intro h
    simp only [slice?, Option.bind_eq_bind, Option.bind_eq_some_iff, Prod.exists,
      Option.pure_def, Option.some.injEq] at h
    obtain ⟨front, after, hstop, before, back, hstart, rfl⟩ := h
    obtain ⟨rfl, hfront⟩ := eq_append_of_splitAt? hstop
    obtain ⟨rfl, hbefore⟩ := eq_append_of_splitAt? hstart
    exact ⟨before, after, rfl, hbefore, hfront⟩
  · rintro ⟨before, after, rfl, rfl, rfl⟩
    simp only [slice?, splitAt?_append, Option.bind_eq_bind, Option.bind_some, Option.pure_def]

theorem slice?_between (before after : List Char) {cs part : List Char} {start stop : Nat}
    (hcs : cs = before ++ part ++ after) (hstart : byteCount before = start)
    (hstop : start + byteCount part = stop) : slice? cs start stop = some part := by
  rw [slice?_eq_some_iff]
  refine ⟨before, after, hcs, hstart, ?_⟩
  rw [byteCount_append, hstart, hstop]

theorem slice?_behind (before : List Char) {cs after : List Char} {start : Nat}
    (hcs : cs = before ++ after) (hstart : byteCount before = start) :
    slice? cs start (byteCount cs) = some after := by
  rw [slice?_eq_some_iff]
  refine ⟨before, [], ?_, hstart, ?_⟩
  · rw [List.append_nil, hcs]
  · rw [hcs]

theorem bounds_of_slice? {cs part : List Char} {start stop : Nat}
    (h : slice? cs start stop = some part) : start ≤ stop ∧ stop ≤ byteCount cs := by
  obtain ⟨before, after, rfl, rfl, rfl⟩ := slice?_eq_some_iff.1 h
  simp only [byteCount_append]
  omega

theorem find?_eq (d : Char) (cs : List Char) :
    find? d cs = (cut? d cs).map fun p => byteCount p.1 := by
  induction cs with
  | nil => rfl
  | cons c cs ih =>
    rw [find?, cut?, ih]
    split
    · rfl
    · rw [Option.map_map, Option.map_map]
      congr 1
      funext p
      simp [byteCount_cons, Nat.add_comm]

end Fixture.Text
