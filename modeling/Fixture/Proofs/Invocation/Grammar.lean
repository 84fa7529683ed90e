import Fixture.Invocation
import Fixture.Proofs.Text.Pieces
import Fixture.Proofs.Text.Trim

/-!
# The texts of an invocation

An invocation is written as its name, an opening parenthesis, its arguments with a comma
between any two, and a closing parenthesis. Blanks may stand before the name, between it and
the opening parenthesis, and at the end. Reading accepts these texts and no others, and gives
back what was written: the name has no blanks around it and the arguments are kept as they are.
One text cannot be written in two ways. The one list of arguments that cannot be written is
the list of one empty text, since empty parentheses are no argument.
-/

namespace Fixture

namespace Invocation

structure WellFormed (call : Invocation) : Prop where
  name_ne_empty : call.generator ≠ ""
  name_bare : Text.Bare call.generator.toList
  opening_not_mem : '(' ∉ call.generator.toList
  comma_not_mem : ∀ argument ∈ call.arguments, ',' ∉ argument.toList
  closing_not_mem : ∀ argument ∈ call.arguments, ')' ∉ argument.toList
  arguments_ne : call.arguments ≠ [""]

/-- The blanks in the text of an invocation: before the name, after it, and at the end. -/
structure Spacing where
  before : String
  between : String
  after : String
  before_blank : Text.AllBlank before.toList
  between_blank : Text.AllBlank between.toList
  after_blank : Text.AllBlank after.toList

def spelled (call : Invocation) (spacing : Spacing) : String :=
  spacing.before ++ call.generator ++ spacing.between ++ "(" ++
    ",".intercalate call.arguments ++ ")" ++ spacing.after

theorem writeArguments_eq (arguments : List String) :
    writeArguments arguments = (",".intercalate arguments).toList := by
  rw [String.toList_intercalate]
  rfl

def Spacing.none : Spacing where
  before := ""
  between := ""
  after := ""
  before_blank := Text.allBlank_nil
  between_blank := Text.allBlank_nil
  after_blank := Text.allBlank_nil

theorem spelled_none (call : Invocation) : call.spelled Spacing.none = call.write := by
  rw [write, writeArguments_eq, String.ofList_toList, spelled]
  simp [Spacing.none]

theorem toList_spelled (call : Invocation) (spacing : Spacing) :
    (call.spelled spacing).toList = spacing.before.toList ++
      (call.generator.toList ++ (spacing.between.toList ++
        '(' :: (writeArguments call.arguments ++ ')' :: spacing.after.toList))) := by
  simp [spelled, writeArguments_eq]

theorem readArguments_writeArguments {arguments : List String} (hne : arguments ≠ [""])
    (h : ∀ argument ∈ arguments, ',' ∉ argument.toList) :
    readArguments (writeArguments arguments) = arguments := by
  cases arguments with
  | nil => rfl
  | cons first rest =>
    have hparts : ∀ part ∈ (first :: rest).map String.toList, ',' ∉ part := by
      intro part hpart
      obtain ⟨argument, hargument, rfl⟩ := List.mem_map.1 hpart
      exact h argument hargument
    have hinside : writeArguments (first :: rest) ≠ [] := by
      intro hnil
      cases rest with
      | nil =>
        rw [writeArguments, List.map_singleton, Text.joined_singleton,
          String.toList_eq_nil_iff] at hnil
        exact hne (by rw [hnil])
      | cons next rest =>
        rw [writeArguments, List.map_cons, Text.joined_cons (by simp)] at hnil
        exact absurd hnil (by simp)
    rw [readArguments, List.isEmpty_eq_false_iff.2 hinside, if_neg Bool.false_ne_true,
      writeArguments, Text.pieces_joined (by simp) hparts, List.map_map]
    simp

theorem writeArguments_readArguments (inside : List Char) :
    writeArguments (readArguments inside) = inside := by
  cases inside with
  | nil => rfl
  | cons c inside =>
    rw [readArguments, List.isEmpty_cons, if_neg Bool.false_ne_true, writeArguments,
      List.map_map]
    simp [Function.comp_def, Text.joined_pieces]

theorem closing_not_mem_writeArguments {arguments : List String}
    (h : ∀ argument ∈ arguments, ')' ∉ argument.toList) : ')' ∉ writeArguments arguments := by
  rw [writeArguments, Text.mem_joined_iff (by decide)]
  rintro ⟨part, hpart, hmem⟩
  obtain ⟨argument, hargument, rfl⟩ := List.mem_map.1 hpart
  exact h argument hargument hmem

theorem readArguments_ne (inside : List Char) : readArguments inside ≠ [""] := by
  intro h
  have hinside := writeArguments_readArguments inside
  rw [h] at hinside
  rw [← hinside] at h
  exact absurd h (by decide)

theorem comma_not_mem_of_mem_readArguments {inside : List Char} {argument : String}
    (h : argument ∈ readArguments inside) : ',' ∉ argument.toList := by
  cases inside with
  | nil => exact absurd h List.not_mem_nil
  | cons c inside =>
    rw [readArguments, List.isEmpty_cons, if_neg Bool.false_ne_true] at h
    obtain ⟨part, hpart, rfl⟩ := List.mem_map.1 h
    rw [String.toList_ofList]
    exact Text.not_mem_of_mem_pieces hpart

theorem mem_of_mem_readArguments {inside : List Char} {argument : String} {c : Char}
    (h : argument ∈ readArguments inside) (hc : c ∈ argument.toList) (hcomma : c ≠ ',') :
    c ∈ inside := by
  rw [← writeArguments_readArguments inside, writeArguments, Text.mem_joined_iff hcomma]
  exact ⟨argument.toList, List.mem_map_of_mem h, hc⟩

/-! Reading what was written -/

theorem isBlank_opening : Text.isBlank '(' = false := by decide

theorem isBlank_closing : Text.isBlank ')' = false := by decide

theorem WellFormed.toList_ne_nil {call : Invocation} (h : call.WellFormed) :
    call.generator.toList ≠ [] := by
  intro hnil
  exact h.name_ne_empty (String.toList_eq_nil_iff.1 hnil)

theorem bare_body {name : List Char} (hname : Text.Bare name) (hne : name ≠ [])
    (rest : List Char) : Text.Bare (name ++ (rest ++ [')'])) := by
  constructor
  · intro c hc
    obtain ⟨first, name, rfl⟩ := List.exists_cons_of_ne_nil hne
    exact hname.head c hc
  · intro c hc
    rw [← List.append_assoc, List.getLast?_concat, Option.mem_some_iff] at hc
    rw [← hc]
    exact isBlank_closing

theorem trim_spelled {call : Invocation} (h : call.WellFormed) (spacing : Spacing) :
    Text.trim (call.spelled spacing).toList =
      call.generator.toList ++ (spacing.between.toList ++
        '(' :: (writeArguments call.arguments ++ [')'])) := by
  have hbody := bare_body h.name_bare h.toList_ne_nil
    (spacing.between.toList ++ '(' :: writeArguments call.arguments)
  rw [List.append_assoc, List.cons_append] at hbody
  rw [← Text.trim_of_bare spacing.before_blank hbody spacing.after_blank, toList_spelled]
  simp only [List.append_assoc, List.cons_append, List.nil_append]

theorem read_spelled {call : Invocation} (h : call.WellFormed) (spacing : Spacing) :
    read (call.spelled spacing) = .ok call := by
  have hopening : '(' ∉ call.generator.toList ++ spacing.between.toList := by
    rw [List.mem_append, not_or]
    exact ⟨h.opening_not_mem, spacing.between_blank.not_mem isBlank_opening⟩
  have hhead : Text.cut? '(' (Text.trim (call.spelled spacing).toList) =
      some (call.generator.toList ++ spacing.between.toList,
        writeArguments call.arguments ++ [')']) := by
    rw [trim_spelled h, ← List.append_assoc]
    exact Text.cut?_eq_some_iff.2 ⟨rfl, hopening⟩
  have htail : Text.cut? ')' (writeArguments call.arguments ++ [')']) =
      some (writeArguments call.arguments, []) :=
    Text.cut?_eq_some_iff.2 ⟨rfl, closing_not_mem_writeArguments h.closing_not_mem⟩
  have hname : Text.trim (call.generator.toList ++ spacing.between.toList) =
      call.generator.toList :=
    Text.trim_of_bare Text.allBlank_nil h.name_bare spacing.between_blank
  rw [read, hhead]
  simp only [htail, hname, List.isEmpty_eq_false_iff.2 h.toList_ne_nil, Text.trim_nil,
    List.isEmpty_nil, Bool.false_eq_true, if_false, if_true, String.ofList_toList,
    readArguments_writeArguments h.arguments_ne h.comma_not_mem]

/-- A text that is read is cut at the first opening parenthesis and at the first closing one
after it. -/
theorem cuts_of_read {text : String} {call : Invocation} (h : read text = .ok call) :
    ∃ head inside rest,
      Text.trim text.toList = head ++ '(' :: (inside ++ ')' :: rest) ∧
      '(' ∉ head ∧ ')' ∉ inside ∧ Text.AllBlank rest ∧ Text.trim head ≠ [] ∧
      call = ⟨String.ofList (Text.trim head), readArguments inside⟩ := by
  unfold read at h
  split at h
  · cases h
  · rename_i head tail hhead
    split at h
    · cases h
    · rename_i inside rest htail
      obtain ⟨htext, hopening⟩ := Text.cut?_eq_some_iff.1 hhead
      obtain ⟨rfl, hclosing⟩ := Text.cut?_eq_some_iff.1 htail
      dsimp only at h
      split at h
      · cases h
      · rename_i hname
        split at h
        · rename_i hrest
          rw [List.isEmpty_iff, Text.trim_eq_nil_iff] at hrest
          rw [List.isEmpty_iff] at hname
          exact ⟨head, inside, rest, htext, hopening, hclosing, hrest, hname,
            (Except.ok.inj h).symm⟩
        · cases h

theorem wellFormed_of_read {text : String} {call : Invocation} (h : read text = .ok call) :
    call.WellFormed := by
  obtain ⟨head, inside, rest, _, hopening, hclosing, _, hname, rfl⟩ := cuts_of_read h
  obtain ⟨before, after, _, _, hhead⟩ := Text.exists_eq_append_trim_append head
  constructor
  · intro hempty
    exact hname (String.ofList_eq_empty_iff.1 hempty)
  · rw [String.toList_ofList]
    exact Text.bare_trim head
  · rw [String.toList_ofList]
    intro hmem
    apply hopening
    rw [hhead]
    exact List.mem_append_left after (List.mem_append_right before hmem)
  · intro argument hargument
    exact comma_not_mem_of_mem_readArguments hargument
  · intro argument hargument hmem
    exact hclosing (mem_of_mem_readArguments hargument hmem (by decide))
  · exact readArguments_ne inside

theorem exists_spacing_of_read {text : String} {call : Invocation}
    (h : read text = .ok call) : ∃ spacing, text = call.spelled spacing := by
  -- The text is trimmed as a whole and then the name and the rest once more, so the blanks
  -- at either end come in two parts.
  obtain ⟨head, inside, rest, htext, _, _, hrest, _, rfl⟩ := cuts_of_read h
  obtain ⟨front, back, hfront, hback, hwhole⟩ :=
    Text.exists_eq_append_trim_append text.toList
  obtain ⟨before, between, hbefore, hbetween, hhead⟩ :=
    Text.exists_eq_append_trim_append head
  refine ⟨⟨String.ofList (front ++ before), String.ofList between,
    String.ofList (rest ++ back), ?_, ?_, ?_⟩, ?_⟩
  · rw [String.toList_ofList]
    exact hfront.append hbefore
  · rwa [String.toList_ofList]
  · rw [String.toList_ofList]
    exact hrest.append hback
  · apply String.toList_inj.1
    have hbody : head ++ '(' :: (inside ++ ')' :: rest) =
        before ++ Text.trim head ++ between ++ '(' :: (inside ++ ')' :: rest) := by
      rw [← hhead]
    rw [hwhole, htext, hbody, toList_spelled, writeArguments_readArguments]
    simp only [String.toList_ofList, List.append_assoc, List.cons_append]

theorem spelled_injective {call : Invocation} (h : call.WellFormed)
    {spacing other : Spacing} (heq : call.spelled spacing = call.spelled other) :
    spacing = other := by
  -- In each place the blanks end at a character that is none: the first of the name, then
  -- the parenthesis.
  obtain ⟨c, name, hname⟩ := List.exists_cons_of_ne_nil h.toList_ne_nil
  have hfirst (rest : List Char) :
      ∃ c ∈ (call.generator.toList ++ rest).head?, Text.isBlank c = false := by
    rw [hname]
    exact ⟨c, rfl, h.name_bare.head c (by rw [hname]; rfl)⟩
  have hchars := congrArg String.toList heq
  rw [toList_spelled, toList_spelled] at hchars
  obtain ⟨hbefore, hbody⟩ := Text.append_cancel_blanks spacing.before_blank
    other.before_blank (hfirst _) (hfirst _) hchars
  obtain ⟨hbetween, hinside⟩ := Text.append_cancel_blanks spacing.between_blank
    other.between_blank ⟨'(', rfl, isBlank_opening⟩ ⟨'(', rfl, isBlank_opening⟩
    (List.append_cancel_left hbody)
  have hafter := (List.cons.inj (List.append_cancel_left (List.cons.inj hinside).2)).2
  cases spacing
  cases other
  simp only [Spacing.mk.injEq]
  exact ⟨String.toList_inj.1 hbefore, String.toList_inj.1 hbetween, String.toList_inj.1 hafter⟩

end Invocation

/-- A text is read as an invocation if and only if it is that invocation written with blanks
in some of the three places, so every well-formed invocation is read back, name and arguments
as they are, and every invocation that is read is well formed. A text is written in this way
by no other invocation and with no other blanks. -/
theorem invocations_read_as_written (text : String) (call : Invocation) :
    (Invocation.read text = .ok call ↔
      call.WellFormed ∧ ∃ spacing, text = call.spelled spacing) ∧
    (∀ other : Invocation, call.WellFormed → other.WellFormed →
      ∀ spacing spacing', text = call.spelled spacing → text = other.spelled spacing' →
        call = other ∧ spacing = spacing') ∧
    (Invocation.read text = .ok call → Invocation.read call.write = .ok call) := by
  refine ⟨⟨?_, ?_⟩, ?_, ?_⟩
  · intro h
    exact ⟨Invocation.wellFormed_of_read h, Invocation.exists_spacing_of_read h⟩
  · rintro ⟨hgood, spacing, rfl⟩
    exact Invocation.read_spelled hgood spacing
  · rintro other hcall hother spacing spacing' rfl hsame
    have hread := Invocation.read_spelled hother spacing'
    rw [← hsame, Invocation.read_spelled hcall spacing] at hread
    obtain rfl := Except.ok.inj hread
    exact ⟨rfl, Invocation.spelled_injective hcall hsame⟩
  · intro h
    rw [← Invocation.spelled_none]
    exact Invocation.read_spelled (Invocation.wellFormed_of_read h) Invocation.Spacing.none

/-- A closing parenthesis in the name, an opening one and nothing at all in an argument, and
blanks in all three places. -/
theorem invocations_read_as_written_spaced :
    let call : Invocation := ⟨"get)List", [" a ", "b(b", "", "c"]⟩
    let text := "\t get)List\u00A0( a ,b(b,,c)\n"
    call.WellFormed ∧ Invocation.read text = .ok call ∧
      Invocation.read call.write = .ok call ∧
      ∀ spacing, text = call.spelled spacing →
        spacing.before = "\t " ∧ spacing.between = "\u00A0" ∧ spacing.after = "\n" := by
  intro call text
  have hgood : call.WellFormed := by
    constructor
    · decide
    · decide
    · decide
    · decide
    · decide
    · decide
  have hbefore : Text.AllBlank "\t ".toList := by decide
  have hbetween : Text.AllBlank "\u00A0".toList := by decide
  have hafter : Text.AllBlank "\n".toList := by decide
  let spacing : Invocation.Spacing := ⟨"\t ", "\u00A0", "\n", hbefore, hbetween, hafter⟩
  have htext : text = call.spelled spacing := rfl
  obtain ⟨hread, hunique, hwritten⟩ := invocations_read_as_written text call
  have hcall := hread.2 ⟨hgood, spacing, htext⟩
  refine ⟨hgood, hcall, hwritten hcall, ?_⟩
  intro other hother
  obtain ⟨_, hsame⟩ := hunique call hgood hgood spacing other htext hother
  rw [← hsame]
  exact ⟨rfl, rfl, rfl⟩

end Fixture
