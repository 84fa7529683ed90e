/-!
# Lines in bytes

In UTF-8 the byte 10 stands for the line feed and occurs in no other character. So a text
without a line feed has no such byte, and texts that each end with one are found again by
splitting their bytes at it.
-/

namespace Fixture.Text

def bytes (text : String) : List UInt8 :=
  text.toUTF8.data.toList

def lineFeed : UInt8 := 10

theorem bytes_append (text other : String) : bytes (text ++ other) = bytes text ++ bytes other := by
  simp [bytes]

theorem bytes_ofList (cs : List Char) :
    bytes (String.ofList cs) = cs.flatMap String.utf8EncodeChar := by
  rw [bytes, String.toUTF8_eq_toByteArray, String.toByteArray_ofList, List.utf8Encode,
    List.data_toByteArray]

theorem bytes_lineFeed : bytes "\n" = [lineFeed] := by decide

theorem ofNat_ne_lineFeed {n : Nat} (h : n % 256 ≠ 10) : lineFeed ≠ UInt8.ofNat n := by
  intro heq
  have hnat := congrArg UInt8.toNat heq
  rw [UInt8.toNat_ofNat'] at hnat
  exact h hnat.symm

theorem lineFeed_not_mem_utf8EncodeChar {c : Char} (h : c ≠ '\n') :
    lineFeed ∉ String.utf8EncodeChar c := by
  have hne : c.val.toNat ≠ 10 := fun heq => h (Char.toNat_inj.1 heq)
  unfold String.utf8EncodeChar
  dsimp only
  split
  · rw [List.mem_singleton]
    exact ofNat_ne_lineFeed (by omega)
  -- every byte of a longer form has its highest bit set
  split
  · simp only [List.mem_cons, List.not_mem_nil, or_false, not_or]
    exact ⟨ofNat_ne_lineFeed (by omega), ofNat_ne_lineFeed (by omega)⟩
  split
  · simp only [List.mem_cons, List.not_mem_nil, or_false, not_or]
    exact ⟨ofNat_ne_lineFeed (by omega), ofNat_ne_lineFeed (by omega),
      ofNat_ne_lineFeed (by omega)⟩
  · simp only [List.mem_cons, List.not_mem_nil, or_false, not_or]
    exact ⟨ofNat_ne_lineFeed (by omega), ofNat_ne_lineFeed (by omega),
      ofNat_ne_lineFeed (by omega), ofNat_ne_lineFeed (by omega)⟩

theorem lineFeed_not_mem_bytes {cs : List Char} (h : '\n' ∉ cs) :
    lineFeed ∉ bytes (String.ofList cs) := by
  rw [bytes_ofList]
  intro hmem
  obtain ⟨c, hc, hbyte⟩ := List.mem_flatMap.1 hmem
  have hne : c ≠ '\n' := fun heq => h (heq ▸ hc)
  exact lineFeed_not_mem_utf8EncodeChar hne hbyte

/-- Lines are found again by splitting at the line feeds that end them. -/
theorem splitOn_lines {lines : List (List UInt8)} (h : ∀ line ∈ lines, lineFeed ∉ line) :
    (lines.flatMap (· ++ [lineFeed])).splitOn lineFeed = lines ++ [[]] := by
  induction lines with
  | nil => rfl
  | cons line lines ih =>
    have hline : lineFeed ∉ line := h line List.mem_cons_self
    have hlines := ih fun other hother => h other (List.mem_cons_of_mem line hother)
    rw [List.flatMap_cons, List.append_assoc, List.singleton_append,
      List.splitOn_append_cons_self_of_not_mem hline, hlines, List.cons_append]

end Fixture.Text
