import Fixture.Json.Fault

/-!
# Reading JSON strings

A string runs to the first quotation mark that is not escaped. A backslash begins an escape:
one letter, or `u` and the four hexadecimal digits of a UTF-16 unit. A unit of the first half
of a surrogate pair has to be followed by an escape for the second half, and the second half
stands for nothing alone. Characters below U+0020 are only allowed as escapes.
-/

namespace Fixture.Json

def hexValue? (c : Char) : Option Nat :=
  if c.isDigit then some (c.toNat - '0'.toNat)
  else if 'a' ≤ c ∧ c ≤ 'f' then some (c.toNat - 'a'.toNat + 10)
  else if 'A' ≤ c ∧ c ≤ 'F' then some (c.toNat - 'A'.toNat + 10)
  else none

/-- The unit whose four digits a text begins with, and the text after them. Four bytes are
looked at together, whatever characters they belong to. -/
def scanUnit (cs : List Char) : Except Fault (Nat × List Char) :=
  match cs with
  | a :: b :: c :: d :: rest =>
    match hexValue? a, hexValue? b, hexValue? c, hexValue? d with
    | some a, some b, some c, some d => .ok (((a * 16 + b) * 16 + c) * 16 + d, rest)
    | _, _, _, _ => .error ⟨.invalidEscape, cs, 4⟩
  | _ =>
    if Text.byteCount cs < 4 then .error (.atEnd .stringEnds)
    else .error ⟨.invalidEscape, cs, 4⟩

def isLeading (unit : Nat) : Bool :=
  0xD800 ≤ unit && unit ≤ 0xDBFF

def isTrailing (unit : Nat) : Bool :=
  0xDC00 ≤ unit && unit ≤ 0xDFFF

def pairedChar (leading trailing : Nat) : Char :=
  Char.ofNat (0x10000 + (leading - 0xD800) * 0x400 + (trailing - 0xDC00))

/-- The second half of a pair, which has to be the next escape of the text. -/
def scanTrailing (leading : Nat) : List Char → Except Fault (Char × List Char)
  | [] => .error (.atEnd .stringEnds)
  | ['\\'] => .error (.atEnd .stringEnds)
  | '\\' :: 'u' :: cs =>
    match scanUnit cs with
    | .error fault => .error fault
    | .ok (unit, rest) =>
      if isTrailing unit then .ok (pairedChar leading unit, rest)
      else .error ⟨.loneSurrogate, rest, 0⟩
  | '\\' :: cs => .error (.at .surrogateEnds cs)
  | cs => .error (.at .surrogateEnds cs)

def scanUnits (cs : List Char) : Except Fault (Char × List Char) :=
  match scanUnit cs with
  | .error fault => .error fault
  | .ok (unit, rest) =>
    if isTrailing unit then .error ⟨.loneSurrogate, rest, 0⟩
    else if isLeading unit then scanTrailing unit rest
    else .ok (Char.ofNat unit, rest)

def escaped? (c : Char) : Option Char :=
  if c = '"' ∨ c = '\\' ∨ c = '/' then some c
  else if c = 'b' then some '\x08'
  else if c = 'f' then some '\x0C'
  else if c = 'n' then some '\n'
  else if c = 'r' then some '\r'
  else if c = 't' then some '\t'
  else none

def scanEscape : List Char → Except Fault (Char × List Char)
  | [] => .error (.atEnd .stringEnds)
  | c :: cs =>
    if c = 'u' then scanUnits cs
    else match escaped? c with
      | some c => .ok (c, cs)
      | none => .error (.at .invalidEscape (c :: cs))

/-- The next character of a string, or none at the quotation mark that ends it. -/
def scanChar : List Char → Except Fault (Option Char × List Char)
  | [] => .error (.atEnd .stringEnds)
  | c :: cs =>
    if c = '"' then .ok (none, cs)
    else if c = '\\' then (scanEscape cs).map fun (c, rest) => (some c, rest)
    else if c < ' ' then .error (.at .controlCharacter (c :: cs))
    else .ok (some c, cs)

theorem length_lt_of_scanUnit {cs rest : List Char} {unit : Nat}
    (h : scanUnit cs = .ok (unit, rest)) : rest.length < cs.length := by
  unfold scanUnit at h
  split at h
  · split at h
    · simp only [Except.ok.injEq, Prod.mk.injEq] at h
      rw [← h.2]
      simp only [List.length_cons]
      omega
    · exact nomatch h
  · split at h <;> exact nomatch h

theorem length_lt_of_scanTrailing {leading : Nat} {cs rest : List Char} {c : Char}
    (h : scanTrailing leading cs = .ok (c, rest)) : rest.length < cs.length := by
  unfold scanTrailing at h
  split at h
  · exact nomatch h
  · exact nomatch h
  · split at h
    · exact nomatch h
    · rename_i unit tail hu
      split at h
      · have hl := length_lt_of_scanUnit hu
        simp only [Except.ok.injEq, Prod.mk.injEq] at h
        rw [← h.2]
        simp only [List.length_cons]
        omega
      · exact nomatch h
  · exact nomatch h
  · exact nomatch h

theorem length_lt_of_scanUnits {cs rest : List Char} {c : Char}
    (h : scanUnits cs = .ok (c, rest)) : rest.length < cs.length := by
  unfold scanUnits at h
  split at h
  · exact nomatch h
  · rename_i unit tail hu
    have hl := length_lt_of_scanUnit hu
    split at h
    · exact nomatch h
    · split at h
      · exact Nat.lt_trans (length_lt_of_scanTrailing h) hl
      · simp only [Except.ok.injEq, Prod.mk.injEq] at h
        exact h.2 ▸ hl

theorem length_lt_of_scanEscape {cs rest : List Char} {c : Char}
    (h : scanEscape cs = .ok (c, rest)) : rest.length < cs.length := by
  unfold scanEscape at h
  split at h
  · exact nomatch h
  · split at h
    · exact Nat.lt_succ_of_lt (length_lt_of_scanUnits h)
    · split at h
      · simp only [Except.ok.injEq, Prod.mk.injEq] at h
        simp [h.2]
      · exact nomatch h

theorem length_lt_of_scanChar {cs rest : List Char} {c : Option Char}
    (h : scanChar cs = .ok (c, rest)) : rest.length < cs.length := by
  unfold scanChar at h
  split at h
  · exact nomatch h
  · split at h
    · simp only [Except.ok.injEq, Prod.mk.injEq] at h
      simp [h.2]
    · split at h
      · rename_i tail _ _
        cases he : scanEscape tail with
        | error fault => simp [he, Except.map] at h
        | ok found =>
          obtain ⟨d, after⟩ := found
          simp only [he, Except.map, Except.ok.injEq, Prod.mk.injEq] at h
          have hl := length_lt_of_scanEscape he
          rw [← h.2]
          simp only [List.length_cons]
          omega
      · split at h
        · exact nomatch h
        · simp only [Except.ok.injEq, Prod.mk.injEq] at h
          simp [h.2]

/-- Read the rest of a string, after the quotation mark that opens it: what it holds and the
text after the one that closes it. -/
def scanQuoted (cs : List Char) : Except Fault (List Char × List Char) :=
  match _h : scanChar cs with
  | .error fault => .error fault
  | .ok (none, rest) => .ok ([], rest)
  | .ok (some c, rest) =>
    match scanQuoted rest with
    | .error fault => .error fault
    | .ok (found, after) => .ok (c :: found, after)
termination_by cs.length
decreasing_by exact length_lt_of_scanChar (by assumption)

theorem length_lt_of_scanQuoted {cs found rest : List Char}
    (h : scanQuoted cs = .ok (found, rest)) : rest.length < cs.length := by
  fun_induction scanQuoted cs generalizing found with
  | case1 => exact nomatch h
  | case2 cs after hc =>
    simp only [Except.ok.injEq, Prod.mk.injEq] at h
    exact h.2 ▸ length_lt_of_scanChar hc
  | case3 => exact nomatch h
  | case4 cs c after hc inner last hq ih =>
    simp only [Except.ok.injEq, Prod.mk.injEq] at h
    rw [h.2] at hq
    exact Nat.lt_trans (ih hq) (length_lt_of_scanChar hc)

end Fixture.Json
