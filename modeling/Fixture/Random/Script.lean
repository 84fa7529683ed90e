import Fixture.Random.Source

/-!
# Scripted sources

A script is a list of words that are given one after the other, whatever width is asked for,
and then zeros for ever. It keeps a record of the widths that were drawn.
-/

namespace Fixture

inductive Width where
  | word32
  | word64
deriving DecidableEq, Repr

/-- The words still to come, and the widths drawn so far, the latest first. -/
structure Script where
  words : List UInt64
  drawn : List Width
deriving Repr

namespace Script

def ofWords (words : List UInt64) : Script :=
  ⟨words, []⟩

def draw (script : Script) (width : Width) : UInt64 × Script :=
  (script.words.headD 0, ⟨script.words.tail, width :: script.drawn⟩)

@[simp] theorem draw_nil (drawn : List Width) (width : Width) :
    draw ⟨[], drawn⟩ width = (0, ⟨[], width :: drawn⟩) := rfl

@[simp] theorem draw_cons (word : UInt64) (words : List UInt64) (drawn : List Width)
    (width : Width) :
    draw ⟨word :: words, drawn⟩ width = (word, ⟨words, width :: drawn⟩) := rfl

instance : Source Script where
  word32 := fun script => ((script.draw .word32).1.toUInt32, (script.draw .word32).2)
  word64 := fun script => script.draw .word64
  horizon := fun script => script.words.length + 1

end Script

end Fixture
