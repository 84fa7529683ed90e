/-!
# Places in a text

A place is counted in bytes of the text's encoding. As a position it has a line, the first
being 1, and a column, the number of bytes since the last line feed before it.
-/

namespace Fixture.Text

def byteCount : List Char → Nat
  | [] => 0
  | c :: cs => c.utf8Size + byteCount cs

@[simp] theorem byteCount_nil : byteCount [] = 0 := rfl

theorem byteCount_cons (c : Char) (cs : List Char) :
    byteCount (c :: cs) = c.utf8Size + byteCount cs := rfl

theorem byteCount_append (cs ds : List Char) :
    byteCount (cs ++ ds) = byteCount cs + byteCount ds := by
  induction cs with
  | nil => simp
  | cons c cs ih => rw [List.cons_append, byteCount_cons, byteCount_cons, ih, Nat.add_assoc]

theorem byteCount_toList (s : String) : byteCount s.toList = s.utf8ByteSize := by
  have h (cs : List Char) : byteCount cs = (String.ofList cs).utf8ByteSize := by
    induction cs with
    | nil => simp
    | cons c cs ih =>
      have hs : String.ofList (c :: cs) = String.singleton c ++ String.ofList cs := by
        rw [String.singleton_eq_ofList, ← String.ofList_append]
        rfl
      rw [byteCount_cons, ih, hs, String.utf8ByteSize_append, String.utf8ByteSize_singleton]
  rw [h, String.ofList_toList]

structure Position where
  line : Nat
  column : Nat
deriving DecidableEq, Repr

/-- The position `bytes` bytes after the position `start`, at which the text stands. -/
def advance (start : Position) : List Char → Nat → Position
  | [], _ => start
  | c :: cs, bytes =>
    if bytes < c.utf8Size then ⟨start.line, start.column + bytes⟩
    else if c = '\n' then advance ⟨start.line + 1, 0⟩ cs (bytes - 1)
    else advance ⟨start.line, start.column + c.utf8Size⟩ cs (bytes - c.utf8Size)

def position (cs : List Char) (bytes : Nat) : Position :=
  advance ⟨1, 0⟩ cs bytes

end Fixture.Text
