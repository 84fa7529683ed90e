import Fixture.Invocation
import Fixture.Proofs.Text.Slices

/-!
# Reading by slices

An invocation can be read by the places of its parentheses: each is looked for from some byte
on, and what is before, between and behind them are slices. A slice that does not exist would
end the reading without an answer. All of them exist, and the answer is that of reading.
-/

namespace Fixture

namespace Invocation

open Text

/-- Read a text by its slices, one after the other as they are needed. There is no answer if one
of them does not exist. -/
def readSliced (text : String) : Option (Except SyntaxError Invocation) :=
  let cs := trim text.toList
  match find? '(' cs with
  | none => some (.error (.missingOpening text))
  | some opening => do
    let tail ← slice? cs (opening + 1) (byteCount cs)
    match find? ')' tail with
    | none => return .error (.missingClosing text)
    | some offset =>
      let closing := opening + 1 + offset
      let head ← slice? cs 0 opening
      let name := trim head
      if name.isEmpty then return .error (.emptyName text)
      else
        let behind ← slice? cs (closing + 1) (byteCount cs)
        let rest := trim behind
        if rest.isEmpty then
          let inside ← slice? cs (opening + 1) closing
          return .ok ⟨String.ofList name, readArguments inside⟩
        else return .error (.trailing text (String.ofList rest))

/-- Every slice that is needed exists, and reading by slices is reading. -/
theorem readSliced_eq (text : String) : readSliced text = some (read text) := by
  rw [readSliced, read]
  dsimp only
  generalize trim text.toList = cs
  rw [find?_eq]
  cases hhead : cut? '(' cs with
  | none => rfl
  | some cut =>
    obtain ⟨head, tail⟩ := cut
    obtain ⟨rfl, _⟩ := cut?_eq_some_iff.1 hhead
    -- either parenthesis takes one byte
    have hopening : byteCount (head ++ ['(']) = byteCount head + 1 := byteCount_append _ _
    have htail : slice? (head ++ '(' :: tail) (byteCount head + 1)
        (byteCount (head ++ '(' :: tail)) = some tail :=
      slice?_behind (head ++ ['(']) (by simp) hopening
    have hfront : slice? (head ++ '(' :: tail) 0 (byteCount head) = some head :=
      slice?_between [] ('(' :: tail) rfl rfl (Nat.zero_add _)
    simp only [Option.map_some, Option.bind_eq_bind, Option.pure_def, htail, hfront,
      Option.bind_some, find?_eq]
    cases hclosing : cut? ')' tail with
    | none => rfl
    | some cut =>
      obtain ⟨inside, rest⟩ := cut
      obtain ⟨rfl, _⟩ := cut?_eq_some_iff.1 hclosing
      have hclosed : byteCount (head ++ ['('] ++ inside ++ [')']) =
          byteCount head + 1 + byteCount inside + 1 := by
        rw [byteCount_append, byteCount_append, hopening]
        rfl
      have hbehind : slice? (head ++ '(' :: (inside ++ ')' :: rest))
          (byteCount head + 1 + byteCount inside + 1)
          (byteCount (head ++ '(' :: (inside ++ ')' :: rest))) = some rest :=
        slice?_behind (head ++ ['('] ++ inside ++ [')']) (by simp) hclosed
      have hinside : slice? (head ++ '(' :: (inside ++ ')' :: rest)) (byteCount head + 1)
          (byteCount head + 1 + byteCount inside) = some inside :=
        slice?_between (head ++ ['(']) (')' :: rest) (by simp) hopening rfl
      simp only [Option.map_some, hbehind, hinside, Option.bind_some]
      split
      · rfl
      · split
        · rfl
        · rfl

end Invocation

end Fixture
