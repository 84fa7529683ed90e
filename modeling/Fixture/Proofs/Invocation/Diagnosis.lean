import Fixture.Proofs.Text.Trim
import Fixture.Invocation
import Mathlib.Logic.ExistsUnique

/-!
# What is wrong with a text

Whether a text is an invocation, and what is wrong with it if it is none, is said here of the
text as it was given, with its blanks: by the first opening parenthesis, the first closing one
after it, and what stands before, between and behind them. Reading takes the blanks at both ends
off first. These are none of the parentheses and belong to what is before or behind them, so
that it comes to the same; and more blanks at either end change nothing but the text that an
error quotes.
-/

namespace Fixture

namespace Invocation

open Text

/-- A text is cut at its first opening parenthesis and at the first closing one after it. -/
structure Parenthesized (cs head inside rest : List Char) : Prop where
  eq : cs = head ++ '(' :: (inside ++ ')' :: rest)
  opening_not_mem : '(' ∉ head
  closing_not_mem : ')' ∉ inside

def SyntaxError.text : SyntaxError → String
  | .missingOpening text => text
  | .missingClosing text => text
  | .emptyName text => text
  | .trailing text _ => text

def SyntaxError.quoting (text : String) : SyntaxError → SyntaxError
  | .missingOpening _ => .missingOpening text
  | .missingClosing _ => .missingClosing text
  | .emptyName _ => .emptyName text
  | .trailing _ rest => .trailing text rest

/-- What has to be said of a text: what is wrong with it, or which invocation it is. -/
inductive Diagnosed (text : String) : Except SyntaxError Invocation → Prop
  | missingOpening (h : '(' ∉ text.toList) : Diagnosed text (.error (.missingOpening text))
  | missingClosing {head tail : List Char} (h : text.toList = head ++ '(' :: tail)
      (hhead : '(' ∉ head) (htail : ')' ∉ tail) :
      Diagnosed text (.error (.missingClosing text))
  | emptyName {head inside rest : List Char}
      (h : Parenthesized text.toList head inside rest) (hname : AllBlank head) :
      Diagnosed text (.error (.emptyName text))
  | trailing {head inside rest : List Char}
      (h : Parenthesized text.toList head inside rest) (hname : ¬AllBlank head)
      (hrest : ¬AllBlank rest) :
      Diagnosed text (.error (.trailing text (String.ofList (trim rest))))
  | invocation {head inside rest : List Char}
      (h : Parenthesized text.toList head inside rest) (hname : ¬AllBlank head)
      (hrest : AllBlank rest) :
      Diagnosed text (.ok ⟨String.ofList (trim head), readArguments inside⟩)

section Read

variable {text : String} {head tail inside rest : List Char}

theorem read_of_opening_not_mem (h : '(' ∉ text.toList) :
    read text = .error (.missingOpening text) := by
  have hcut : cut? '(' (trim text.toList) = none :=
    cut?_eq_none_iff.2 (not_mem_trimEnd (not_mem_trimStart h))
  rw [read, hcut]

/-- Blanks that are taken off the ends of a text stand before or behind its first opening
parenthesis. -/
theorem cut?_trim (h : text.toList = head ++ '(' :: tail) (hhead : '(' ∉ head) :
    cut? '(' (trim text.toList) = some (trimStart head, trimEnd tail) := by
  rw [h, trim_append_cons (by decide)]
  exact cut?_eq_some_iff.2 ⟨rfl, not_mem_trimStart hhead⟩

theorem read_of_closing_not_mem (h : text.toList = head ++ '(' :: tail) (hhead : '(' ∉ head)
    (htail : ')' ∉ tail) : read text = .error (.missingClosing text) := by
  have hcut : cut? ')' (trimEnd tail) = none := cut?_eq_none_iff.2 (not_mem_trimEnd htail)
  rw [read, cut?_trim h hhead]
  simp only [hcut]

theorem read_of_parenthesized (h : Parenthesized text.toList head inside rest) :
    read text =
      if AllBlank head then .error (.emptyName text)
      else if AllBlank rest then .ok ⟨String.ofList (trim head), readArguments inside⟩
      else .error (.trailing text (String.ofList (trim rest))) := by
  have hcut : cut? ')' (trimEnd (inside ++ ')' :: rest)) = some (inside, trimEnd rest) := by
    rw [trimEnd_append_cons (by decide)]
    exact cut?_eq_some_iff.2 ⟨rfl, h.closing_not_mem⟩
  rw [read, cut?_trim h.eq h.opening_not_mem]
  simp only [hcut, trim_trimStart, trim_trimEnd, List.isEmpty_iff, trim_eq_nil_iff]

end Read

theorem exists_diagnosed (text : String) : ∃ result, Diagnosed text result := by
  cases hopening : cut? '(' text.toList with
  | none => exact ⟨_, .missingOpening (cut?_eq_none_iff.1 hopening)⟩
  | some cut =>
    obtain ⟨head, tail⟩ := cut
    obtain ⟨htext, hhead⟩ := cut?_eq_some_iff.1 hopening
    cases hclosing : cut? ')' tail with
    | none => exact ⟨_, .missingClosing htext hhead (cut?_eq_none_iff.1 hclosing)⟩
    | some cut =>
      obtain ⟨inside, rest⟩ := cut
      obtain ⟨htail, hinside⟩ := cut?_eq_some_iff.1 hclosing
      have h : Parenthesized text.toList head inside rest := ⟨htail ▸ htext, hhead, hinside⟩
      by_cases hname : AllBlank head
      · exact ⟨_, .emptyName h hname⟩
      · by_cases hrest : AllBlank rest
        · exact ⟨_, .invocation h hname hrest⟩
        · exact ⟨_, .trailing h hname hrest⟩

theorem Diagnosed.read_eq {text : String} {result : Except SyntaxError Invocation}
    (h : Diagnosed text result) : read text = result := by
  cases h with
  | missingOpening h => exact read_of_opening_not_mem h
  | missingClosing h hhead htail => exact read_of_closing_not_mem h hhead htail
  | emptyName h hname => rw [read_of_parenthesized h, if_pos hname]
  | trailing h hname hrest => rw [read_of_parenthesized h, if_neg hname, if_neg hrest]
  | invocation h hname hrest => rw [read_of_parenthesized h, if_neg hname, if_pos hrest]

theorem read_eq_iff {text : String} {result : Except SyntaxError Invocation} :
    read text = result ↔ Diagnosed text result := by
  constructor
  · rintro rfl
    obtain ⟨result, h⟩ := exists_diagnosed text
    rwa [h.read_eq]
  · exact Diagnosed.read_eq

theorem text_of_read {text : String} {error : SyntaxError} (h : read text = .error error) :
    error.text = text := by
  cases read_eq_iff.1 h <;> rfl

theorem rest_of_read {text quoted rest : String}
    (h : read text = .error (.trailing quoted rest)) :
    rest ≠ "" ∧ Bare rest.toList ∧ ∃ before after, text = before ++ ")" ++ after ∧
      ∃ front back, AllBlank front.toList ∧ AllBlank back.toList ∧
        after = front ++ rest ++ back := by
  cases read_eq_iff.1 h with
  | @trailing head inside rest hparts hname hrest =>
    obtain ⟨front, back, hfront, hback, htrim⟩ := exists_eq_append_trim_append rest
    refine ⟨?_, ?_, String.ofList (head ++ '(' :: inside), String.ofList rest, ?_,
      String.ofList front, String.ofList back, ?_, ?_, ?_⟩
    · rw [ne_eq, String.ofList_eq_empty_iff, trim_eq_nil_iff]
      exact hrest
    · rw [String.toList_ofList]
      exact bare_trim rest
    · apply String.toList_inj.1
      rw [hparts.eq]
      simp
    · rwa [String.toList_ofList]
    · rwa [String.toList_ofList]
    · rw [← String.ofList_append, ← String.ofList_append, ← htrim]

theorem read_of_trim_eq {text other : String} (h : trim other.toList = trim text.toList) :
    read other = (read text).mapError (SyntaxError.quoting other) := by
  rw [read, read, h]
  cases cut? '(' (trim text.toList) with
  | none => rfl
  | some cut =>
    dsimp only
    cases cut? ')' cut.2 with
    | none => rfl
    | some inner =>
      dsimp only
      split
      · rfl
      · split
        · rfl
        · rfl

end Invocation

/-- Every text is answered in one way only: with a missing opening parenthesis if it has none,
with a missing closing one if none comes after the first opening one, with an empty name if
nothing but blanks stands before it, with too much text if something else than blanks stands
after the first closing parenthesis that follows it, and otherwise with the invocation. An error
quotes the text as it was given, and what is too much is part of the text, not empty and
without blanks around it. More blanks before and after the text change the quoted text alone. -/
theorem texts_diagnosed (text : String) :
    (∃! result, Invocation.Diagnosed text result) ∧
    (∀ result, Invocation.read text = result ↔ Invocation.Diagnosed text result) ∧
    (∀ error, Invocation.read text = .error error → error.text = text) ∧
    (∀ quoted rest, Invocation.read text = .error (.trailing quoted rest) →
      rest ≠ "" ∧ Text.Bare rest.toList ∧ ∃ before after, text = before ++ ")" ++ after ∧
        ∃ front back, Text.AllBlank front.toList ∧ Text.AllBlank back.toList ∧
          after = front ++ rest ++ back) ∧
    (∀ before after : String, Text.AllBlank before.toList → Text.AllBlank after.toList →
      Invocation.read (before ++ text ++ after) = (Invocation.read text).mapError
        (Invocation.SyntaxError.quoting (before ++ text ++ after))) := by
  refine ⟨⟨_, Invocation.read_eq_iff.1 rfl, fun _ h => h.read_eq.symm⟩,
    fun _ => Invocation.read_eq_iff, fun _ => Invocation.text_of_read,
    fun _ _ => Invocation.rest_of_read, ?_⟩
  intro before after hbefore hafter
  apply Invocation.read_of_trim_eq
  rw [String.toList_append, String.toList_append, Text.trim_append_blanks hbefore hafter]

/-- Of several faults the first counts, and a closing parenthesis ends the arguments although an
opening one stands among them. -/
theorem texts_diagnosed_nested :
    let text := " getFromList\u00A0(a(b) ,c)\u2003"
    Text.AllBlank "\n".toList ∧ Text.AllBlank "\u3000".toList ∧
    Invocation.read text = .error (.trailing text ",c)") ∧
    Invocation.read ("\n" ++ text ++ "\u3000") =
      .error (.trailing ("\n" ++ text ++ "\u3000") ",c)") ∧
    Invocation.read "\t(1" = .error (.missingClosing "\t(1") ∧
    Invocation.read "\t(1)x" = .error (.emptyName "\t(1)x") := by
  intro text
  have hbefore : Text.AllBlank "\n".toList := by decide
  have hafter : Text.AllBlank "\u3000".toList := by decide
  have hparts : Invocation.Parenthesized text.toList " getFromList\u00A0".toList "a(b".toList
      " ,c)\u2003".toList := ⟨by decide, by decide, by decide⟩
  obtain ⟨_, hread, _, _, hpadded⟩ := texts_diagnosed text
  have htrailing : Invocation.read text = .error (.trailing text ",c)") :=
    (hread _).2 (.trailing hparts (by decide) (by decide))
  refine ⟨hbefore, hafter, htrailing, ?_, ?_, ?_⟩
  · rw [hpadded "\n" "\u3000" hbefore hafter, htrailing]
    rfl
  · obtain ⟨_, hread, _⟩ := texts_diagnosed "\t(1"
    have htext : "\t(1".toList = ['\t'] ++ '(' :: ['1'] := by decide
    exact (hread _).2 (.missingClosing htext (by decide) (by decide))
  · obtain ⟨_, hread, _⟩ := texts_diagnosed "\t(1)x"
    have hparts : Invocation.Parenthesized "\t(1)x".toList ['\t'] ['1'] ['x'] :=
      ⟨by decide, by decide, by decide⟩
    exact (hread _).2 (.emptyName hparts (by decide))

end Fixture
