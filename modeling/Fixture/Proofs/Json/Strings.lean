import Fixture.Json.Quoted
import Fixture.Json.Write

/-!
# Strings are read as they were written

Each character that is written in a string is read back as itself, whichever of the forms it
is written in, and no written form begins with the quotation mark that ends a string. So
`scanQuoted` reads off exactly what `quote` wrote, whatever text comes after it.
-/

namespace Fixture

namespace Json

theorem hexValue?_digitChar {n : Nat} (h : n < 16) : hexValue? n.digitChar = some n := by
  have hall : ∀ n < 16, hexValue? n.digitChar = some n := by decide
  exact hall n h

theorem toNat_lt_of_lt_space {c : Char} (h : c < ' ') : c.toNat < 32 := h

theorem scanUnit_of_lt {n : Nat} (h : n < 256) (rest : List Char) :
    scanUnit ('0' :: '0' :: (n / 16).digitChar :: (n % 16).digitChar :: rest) =
      .ok (n, rest) := by
  have hzero : hexValue? '0' = some 0 := by decide
  have hhigh := hexValue?_digitChar (show n / 16 < 16 by omega)
  have hlow := hexValue?_digitChar (show n % 16 < 16 by omega)
  simp only [scanUnit, hzero, hhigh, hlow, Except.ok.injEq, Prod.mk.injEq, and_true]
  omega

theorem scanUnits_of_lt_space {c : Char} (h : c < ' ') (rest : List Char) :
    scanUnits ('0' :: '0' :: (c.toNat / 16).digitChar :: (c.toNat % 16).digitChar :: rest) =
      .ok (c, rest) := by
  have hlt := toNat_lt_of_lt_space h
  have htrailing : isTrailing c.toNat = false := by
    simp [isTrailing]
    omega
  have hleading : isLeading c.toNat = false := by
    simp [isLeading]
    omega
  rw [scanUnits, scanUnit_of_lt (by omega)]
  simp only [htrailing, hleading, Bool.false_eq_true, if_false, Char.ofNat_toNat]

theorem scanChar_escape (c : Char) (rest : List Char) :
    scanChar (escape c ++ rest) = .ok (some c, rest) := by
  unfold escape
  -- the seven characters with a short form of their own
  iterate 7
    split
    · rename_i h
      rw [h]
      rfl
  split
  · rename_i h
    have hunits := scanUnits_of_lt_space h rest
    simp [scanChar, scanEscape, hunits, Except.map]
  · rename_i hquote hbackslash _ _ _ _ _ hspace
    simp [scanChar, hquote, hbackslash, hspace]

theorem scanQuoted_of_end {cs rest : List Char} (h : scanChar cs = .ok (none, rest)) :
    scanQuoted cs = .ok ([], rest) := by
  rw [scanQuoted]
  split
  · rename_i hc
    rw [h] at hc
    cases hc
  · rename_i hc
    rw [h, Except.ok.injEq, Prod.mk.injEq] at hc
    rw [hc.2]
  · rename_i hc
    rw [h] at hc
    simp at hc

theorem scanQuoted_of_char {cs rest found after : List Char} {c : Char}
    (h : scanChar cs = .ok (some c, rest)) (hrest : scanQuoted rest = .ok (found, after)) :
    scanQuoted cs = .ok (c :: found, after) := by
  rw [scanQuoted]
  split
  · rename_i hc
    rw [h] at hc
    cases hc
  · rename_i hc
    rw [h] at hc
    simp at hc
  · rename_i hc
    rw [h, Except.ok.injEq, Prod.mk.injEq, Option.some.injEq] at hc
    rw [← hc.1, ← hc.2, hrest]

/-- A string is read up to the quotation mark that ends it, as it was written. -/
theorem scanQuoted_flatMap_escape (cs rest : List Char) :
    scanQuoted (cs.flatMap escape ++ '"' :: rest) = .ok (cs, rest) := by
  induction cs with
  | nil =>
    apply scanQuoted_of_end
    simp [scanChar]
  | cons c cs ih =>
    rw [List.flatMap_cons, List.append_assoc]
    exact scanQuoted_of_char (scanChar_escape c _) ih

end Json

end Fixture
