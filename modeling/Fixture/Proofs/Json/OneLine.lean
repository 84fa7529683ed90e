import Fixture.Proofs.Json.Strings

/-!
# Compact text stays on one line

A line feed in a string is escaped and the compact layout puts none between the parts of a
value, so the compact text of a value never has one.
-/

namespace Fixture

namespace Decimal

theorem lineFeed_not_mem_toDigits (n : Nat) : '\n' ∉ Nat.toDigits 10 n := by
  intro hmem
  have hdigit := Nat.isDigit_of_mem_toDigits (by decide) (by decide) hmem
  exact absurd hdigit (by decide)

theorem lineFeed_not_mem_positionalText (keepsPoint : Bool) (d : Decimal) :
    '\n' ∉ positionalText keepsPoint d := by
  have hdigits := lineFeed_not_mem_toDigits d.digits
  have hzeros (n : Nat) : '\n' ∉ List.replicate n '0' := by
    intro hmem
    exact absurd (List.eq_of_mem_replicate hmem) (by decide)
  unfold positionalText
  split
  · have hpoint : '\n' ∉ (if keepsPoint then ['.', '0'] else []) := by
      cases keepsPoint <;> decide
    simp [hdigits, hzeros, hpoint]
  · have hpadded (n : Nat) : '\n' ∉ List.replicate n '0' ++ Nat.toDigits 10 d.digits := by
      simp [hdigits, hzeros]
    intro hmem
    rcases List.mem_append.1 hmem with htake | hdrop
    · exact hpadded _ (List.mem_of_mem_take htake)
    · rcases List.mem_cons.1 hdrop with heq | hdrop
      · exact absurd heq (by decide)
      · exact hpadded _ (List.mem_of_mem_drop hdrop)

theorem lineFeed_not_mem_exponentText (d : Decimal) : '\n' ∉ exponentText d := by
  have hdigits := lineFeed_not_mem_toDigits d.digits
  have htake (n : Nat) : '\n' ∉ (Nat.toDigits 10 d.digits).take n :=
    fun hmem => hdigits (List.mem_of_mem_take hmem)
  have hdrop (n : Nat) : '\n' ∉ (Nat.toDigits 10 d.digits).drop n :=
    fun hmem => hdigits (List.mem_of_mem_drop hmem)
  have hexponent (n : Nat) := lineFeed_not_mem_toDigits n
  unfold exponentText
  intro hmem
  simp only [List.mem_append, htake, hdrop, hexponent, false_or, or_false] at hmem
  rcases hmem with hpoint | hsign
  · split at hpoint
    · cases hpoint
    · exact absurd hpoint (by decide)
  · split at hsign
    · exact absurd hsign (by decide)
    · exact absurd hsign (by decide)

theorem lineFeed_not_mem_text (layout : Layout) (x : Binary64) : '\n' ∉ layout.text x := by
  have hsign : '\n' ∉ (if x.negative then ['-'] else []) := by
    cases x.negative <;> decide
  have hpositional := lineFeed_not_mem_positionalText layout.keepsPoint
    (shortest layout.tie x.ordinal)
  have hexponent := lineFeed_not_mem_exponentText (shortest layout.tie x.ordinal)
  unfold Layout.text
  dsimp only
  generalize (if x.negative then ['-'] else []) = sign at hsign ⊢
  split
  · decide
  split
  · simp [hsign]
  split
  · simp [hsign, hpositional]
  · simp [hsign, hexponent]

end Decimal

namespace Json

theorem digitChar_ne_lineFeed {n : Nat} (h : n < 16) : n.digitChar ≠ '\n' := by
  have hall : ∀ n < 16, n.digitChar ≠ '\n' := by decide
  exact hall n h

theorem lineFeed_not_mem_escape (c : Char) : '\n' ∉ escape c := by
  unfold escape
  iterate 7
    split
    · decide
  split
  · rename_i h
    have hlt := toNat_lt_of_lt_space h
    have hhigh := digitChar_ne_lineFeed (show c.toNat / 16 < 16 by omega)
    have hlow := digitChar_ne_lineFeed (show c.toNat % 16 < 16 by omega)
    simp [Ne.symm hhigh, Ne.symm hlow]
  · rename_i hne _ _ _
    simp [Ne.symm hne]

theorem lineFeed_not_mem_quote (cs : List Char) : '\n' ∉ quote cs := by
  simp [quote, lineFeed_not_mem_escape]

mutual

theorem lineFeed_not_mem_write (json : Json) : '\n' ∉ write .compact json := by
  cases json with
  | null => simp [write]
  | bool b => cases b <;> simp [write]
  | int n =>
    rw [write]
    cases n with
    | ofNat n => exact Decimal.lineFeed_not_mem_toDigits n
    | negSucc n =>
      have hdigits := Decimal.lineFeed_not_mem_toDigits (n + 1)
      simp [Text.decimal, hdigits]
  | real x =>
    rw [write]
    exact Decimal.lineFeed_not_mem_text realLayout x
  | string s =>
    rw [write]
    exact lineFeed_not_mem_quote s.toList
  | array items =>
    cases items with
    | nil => simp [write]
    | cons item items =>
      have hitem := lineFeed_not_mem_write item
      have hitems := lineFeed_not_mem_writeItems items
      simp [write, Layout.deeper, Layout.gap, hitem, hitems]
  | object members =>
    cases members with
    | nil => simp [write]
    | cons member members =>
      obtain ⟨name, value⟩ := member
      have hname := lineFeed_not_mem_quote name.toList
      have hvalue := lineFeed_not_mem_write value
      have hmembers := lineFeed_not_mem_writeMembers members
      simp [write, Layout.deeper, Layout.gap, Layout.colon, hname, hvalue, hmembers]

theorem lineFeed_not_mem_writeItems (items : List Json) : '\n' ∉ writeItems .compact items := by
  cases items with
  | nil => simp [writeItems]
  | cons item items =>
    have hitem := lineFeed_not_mem_write item
    have hitems := lineFeed_not_mem_writeItems items
    simp [writeItems, Layout.gap, hitem, hitems]

theorem lineFeed_not_mem_writeMembers (members : List (String × Json)) :
    '\n' ∉ writeMembers .compact members := by
  cases members with
  | nil => simp [writeMembers]
  | cons member members =>
    obtain ⟨name, value⟩ := member
    have hname := lineFeed_not_mem_quote name.toList
    have hvalue := lineFeed_not_mem_write value
    have hmembers := lineFeed_not_mem_writeMembers members
    simp [writeMembers, Layout.gap, Layout.colon, hname, hvalue, hmembers]

end

end Json

end Fixture
