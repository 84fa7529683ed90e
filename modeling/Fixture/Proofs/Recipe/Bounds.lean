import Fixture.Json.Write
import Fixture.Proofs.Invocation.Answers
import Fixture.Proofs.Recipe.WholeNumbers
import Fixture.Proofs.Text.Integer

/-!
# Bounds of whole numbers

A bound of whole numbers is read exactly, up to the least and the greatest signed word and not
beyond, and a text that stands for no such number is quoted as it was written. What a whole
number is written as is read back as the number, with blanks around it or without. Both encodings
write the same text, one of them between quotation marks. Between a bound and the same bound there
is one number, and it is drawn from every source that comes to a word of the lower half.
-/

namespace Fixture

namespace Json

theorem escape_of_mem_decimal {n : Int} {c : Char} (h : c ∈ Text.decimal n) :
    escape c = [c] := by
  rcases Text.of_mem_decimal h with rfl | hdigit
  · decide
  · obtain ⟨hlow, hhigh⟩ := Char.isDigit_iff_toNat.1 hdigit
    have hne {d : Char} (hd : d.toNat < '0'.toNat ∨ '9'.toNat < d.toNat) : c ≠ d := by
      rintro rfl
      omega
    have hspace : ¬ c < ' ' := fun hlt => by
      have hless : c.toNat < ' '.toNat := hlt
      have hzero : ' '.toNat < '0'.toNat := by decide
      omega
    rw [escape, if_neg (hne (by decide)), if_neg (hne (by decide)), if_neg (hne (by decide)),
      if_neg (hne (by decide)), if_neg (hne (by decide)), if_neg (hne (by decide)),
      if_neg (hne (by decide)), if_neg hspace]

theorem quote_decimal (n : Int) : quote (Text.decimal n) = '"' :: (Text.decimal n ++ ['"']) := by
  rw [quote, List.flatMap_congr fun c hc => escape_of_mem_decimal hc, List.flatMap_singleton']

end Json

namespace Uniform

open Draw

theorem position?_one (word : UInt64) :
    position? 64 1 word.toNat = if word.toNat < 2 ^ 63 then some 0 else none := by
  have hword : word.toNat < 2 ^ 64 := word.toNat_lt
  have hshare : 1 * share 64 1 = 2 ^ 63 := by decide +kernel
  rw [position?_eq, hshare, Nat.mul_one, Nat.mod_eq_of_lt hword, Nat.div_eq_of_lt hword]

theorem countBetween_self (n : Int64) : countBetween n n = 1 := by
  rw [countBetween, Int.sub_self]
  rfl

theorem wrapped?_self (n : Int64) (word : UInt64) :
    wrapped? n n word = if word.toNat < 2 ^ 63 then some n else none := by
  rw [wrapped?_eq Int64.le_rfl, countBetween_self, if_neg (by decide), position?_one]
  split
  · rw [Option.map_some, Int.natCast_zero, Int.add_zero, Int64.ofInt_toInt]
  · rfl

theorem int64_self {σ : Type} [Source σ] (n : Int64) :
    (int64 n n : Draw σ Int64) =
      until64 fun word => if word.toNat < 2 ^ 63 then some n else none := by
  have hne : countBetween n n ≠ 2 ^ 64 := by
    rw [countBetween_self]
    decide
  funext source
  rw [int64_eq_until64_of_ne Int64.le_rfl hne, funext (wrapped?_self n)]

end Uniform

namespace Recipe

open Draw Source Text Fixture.Uniform

variable {generator : Generator} {text first last : String} {n : Int64}

theorem readInt_eq_ok_iff :
    readInt generator text = .ok n ↔ Integral (trim text.toList) n.toInt := by
  rw [← int64?_eq_some_iff, readInt]
  cases int64? (trim text.toList) <;> simp

theorem readInt_eq_error_iff :
    readInt generator text = .error (.notInteger generator text) ↔
      ¬ ∃ m, Integral (trim text.toList) m ∧ -2 ^ 63 ≤ m ∧ m ≤ 2 ^ 63 - 1 := by
  rw [← int64?_eq_none_iff, readInt]
  cases int64? (trim text.toList) <;> simp

/-- The text is what a whole number is written as, with blanks around it. -/
def Written (text : String) (n : Int64) : Prop :=
  ∃ before after : String, AllBlank before.toList ∧ AllBlank after.toList ∧
    text = before ++ (Value.int n).display ++ after

theorem Written.toList_eq (h : Written text n) :
    ∃ before after, AllBlank before ∧ AllBlank after ∧
      text.toList = before ++ decimal n.toInt ++ after := by
  obtain ⟨before, after, hbefore, hafter, rfl⟩ := h
  refine ⟨before.toList, after.toList, hbefore, hafter, ?_⟩
  rw [String.toList_append, String.toList_append, Value.display, String.toList_ofList]

theorem Written.readInt (h : Written text n) : readInt generator text = .ok n := by
  obtain ⟨before, after, hbefore, hafter, htext⟩ := h.toList_eq
  rw [readInt_eq_ok_iff, htext, trim_of_bare hbefore (bare_decimal _) hafter]
  exact integral_decimal n.toInt

theorem Written.not_mem (h : Written text n) {c : Char} (hblank : isBlank c = false)
    (hdigit : ¬ (c = '-' ∨ c.isDigit)) : c ∉ text.toList := by
  obtain ⟨before, after, hbefore, hafter, htext⟩ := h.toList_eq
  rw [htext, List.mem_append, List.mem_append, not_or, not_or]
  exact ⟨⟨hbefore.not_mem hblank, fun hmem => hdigit (of_mem_decimal hmem)⟩,
    hafter.not_mem hblank⟩

section Invoke

variable {σ : Type} [Source σ]

/-- With the same number for both bounds an invocation gives it by the first word of the lower
half. -/
theorem Written.invokeText_eq_until64 (hfirst : Written first n) (hlast : Written last n)
    (source : σ) :
    invokeText ("getInt(" ++ first ++ "," ++ last ++ ")") source =
      until64 (fun word => if word.toNat < 2 ^ 63 then some (.ok (.int n)) else none)
        source := by
  have hnot {c : Char} (hblank : isBlank c = false) (hdigit : ¬ (c = '-' ∨ c.isDigit)) :
      ∀ argument ∈ [first, last], c ∉ argument.toList := by
    intro argument hargument
    rcases List.mem_pair.1 hargument with rfl | rfl
    · exact hfirst.not_mem hblank hdigit
    · exact hlast.not_mem hblank hdigit
  have hrecipe : ofArguments .int [first, last] = .ok (.int n n) := by
    simp only [ofArguments, hfirst.readInt, hlast.readInt]
    exact if_neg Int64.lt_irrefl
  have htext : "getInt(" ++ first ++ "," ++ last ++ ")" =
      Generator.int.name ++ "(" ++ ",".intercalate [first, last] ++ ")" := by
    simp [Generator.name, ← String.append_assoc]
  have haccept (word : UInt64) :
      ((if word.toNat < 2 ^ 63 then some n else none).map Value.int).map
          (.ok : Value → Except InvocationError Value) =
        if word.toNat < 2 ^ 63 then some (.ok (.int n)) else none := by
    split <;> rfl
  rw [htext, Generator.int.invokeText_call (by simp) (hnot (by decide) (by decide))
    (hnot (by decide) (by decide)) hrecipe, draw, intBetween, int64_self,
    bind_eq_of_eq (until64_bind (fun _ _ _ => rfl) source), until64_bind fun _ _ _ => rfl]
  simp only [haccept]

theorem Written.invokeText_eq_endless_iff (hfirst : Written first n) (hlast : Written last n)
    {source : σ} :
    invokeText ("getInt(" ++ first ++ "," ++ last ++ ")") source = .error .endless ↔
      ∀ place < horizon source, 2 ^ 63 ≤ (wordAt source place).toNat := by
  rw [hfirst.invokeText_eq_until64 hlast, until64_eq_endless_iff]
  refine forall₂_congr fun place _ => ?_
  rw [ite_eq_right_iff, ← Nat.not_lt]
  simp

theorem Written.invokeText_eq (hfirst : Written first n) (hlast : Written last n) (source : σ) :
    invokeText ("getInt(" ++ first ++ "," ++ last ++ ")") source = .error .endless ∨
      ∃ later, invokeText ("getInt(" ++ first ++ "," ++ last ++ ")") source =
        .ok (.ok (.int n), later) := by
  rw [hfirst.invokeText_eq_until64 hlast]
  rcases yields_until64 _ source with hend | ⟨value, later, ⟨word, hword⟩, hmade⟩
  · exact .inl hend
  · rw [Option.ite_none_right_eq_some, Option.some.injEq] at hword
    rw [← hword.2] at hmade
    exact .inr ⟨later, hmade⟩

end Invoke

end Recipe

section Bounds

open Source

/-- The texts that are read as a bound `n` are the ones that, without the blanks around them, are
a numeral with a sign or without one that stands for `n`; a text that stands for no number from
-2⁶³ to 2⁶³ - 1 is refused, and quoted with its blanks. What a whole number is written as is read
back as the number, with blanks around it or without, and every layout writes it in the same way:
in the typed encoding as it is, in the text encoding between quotation marks. With this text for
both bounds an invocation gives the number, from every source that shows a word of the lower half,
and so from every steady source. -/
theorem whole_numbers_read_as_written :
    (∀ (generator : Generator) (text : String),
      (∀ n : Int64, Recipe.readInt generator text = .ok n ↔
        Text.Integral (Text.trim text.toList) n.toInt) ∧
      (Recipe.readInt generator text = .error (.notInteger generator text) ↔
        ¬ ∃ m, Text.Integral (Text.trim text.toList) m ∧ -2 ^ 63 ≤ m ∧ m ≤ 2 ^ 63 - 1)) ∧
    (∀ (n : Int64) (text : String), Recipe.Written text n →
      ∀ generator, Recipe.readInt generator text = .ok n) ∧
    (∀ (n : Int64) (layout : Json.Layout),
      String.ofList (Json.write layout ((Value.int n).toJson .typed)) = (Value.int n).display ∧
      String.ofList (Json.write layout ((Value.int n).toJson .text)) =
        "\"" ++ (Value.int n).display ++ "\"") ∧
    ∀ (n : Int64) (first last : String), Recipe.Written first n → Recipe.Written last n →
      let text := "getInt(" ++ first ++ "," ++ last ++ ")"
      ∀ (σ : Type) [Source σ],
        (∀ source : σ,
          (Recipe.invokeText text source = .error .endless ↔
            ∀ place < horizon source, 2 ^ 63 ≤ (wordAt source place).toNat) ∧
          (Recipe.invokeText text source = .error .endless ∨
            ∃ later, Recipe.invokeText text source = .ok (.ok (.int n), later))) ∧
        (Steady σ → ∀ source : σ,
          ∃ later, Recipe.invokeText text source = .ok (.ok (.int n), later)) := by
  refine ⟨?_, ?_, ?_, ?_⟩
  · intro generator text
    exact ⟨fun n => Recipe.readInt_eq_ok_iff, Recipe.readInt_eq_error_iff⟩
  · intro n text h generator
    exact h.readInt
  · intro n layout
    refine ⟨rfl, ?_⟩
    apply String.toList_injective
    simp [Value.toJson, Value.display, Json.write, Json.quote_decimal]
  · intro n first last hfirst hlast text σ _
    refine ⟨fun source => ⟨hfirst.invokeText_eq_endless_iff hlast,
      hfirst.invokeText_eq hlast source⟩, ?_⟩
    intro _ source
    exact (hfirst.invokeText_eq hlast source).resolve_left
      (Invocation.invokeText_ne_endless text source)

/-- Zeros in front do not count, one more than the greatest signed word is refused, and the least
one is given from a word of the upper half and the zeros behind it. -/
theorem whole_numbers_read_as_written_limits :
    Text.Integral "+009223372036854775807".toList (2 ^ 63 - 1) ∧
    Recipe.readInt .int " +009223372036854775807\t" = .ok Int64.maxValue ∧
    (¬ ∃ m, Text.Integral "9223372036854775808".toList m ∧ -2 ^ 63 ≤ m ∧ m ≤ 2 ^ 63 - 1) ∧
    Recipe.Written "\u3000-9223372036854775808" Int64.minValue ∧
    Recipe.readInt .double "\u3000-9223372036854775808" = .ok Int64.minValue ∧
    ∃ later, Recipe.invokeText
        ("getInt(" ++ "\u3000-9223372036854775808" ++ "," ++ "\u3000-9223372036854775808" ++ ")")
        (Script.ofWords [0x8000000000000000]) = .ok (.ok (.int Int64.minValue), later) := by
  obtain ⟨hread, hback, _, hdraw⟩ := whole_numbers_read_as_written
  have hmax : Recipe.readInt .int " +009223372036854775807\t" = .ok Int64.maxValue := by
    decide +kernel
  have hmin : Recipe.Written "\u3000-9223372036854775808" Int64.minValue :=
    ⟨"\u3000", "", by decide, by decide, by decide +kernel⟩
  refine ⟨((hread .int _).1 _).1 hmax, hmax, ?_, hmin, hback _ _ hmin .double, ?_⟩
  · exact (hread .int "9223372036854775808").2.1 (by decide +kernel)
  · exact (hdraw _ _ _ hmin hmin Script).2 inferInstance _

end Bounds

end Fixture
