import Fixture.Text.Blank

/-!
# What trimming leaves

A text is bare when it neither begins nor ends with a blank; the empty text is bare. Every
text is a bare one with blanks around it, trimming gives the bare one, and the blanks in front
of a text that goes on with something else are determined by it.
-/

namespace Fixture.Text

/-- Nothing but blanks stands in the text. -/
def AllBlank (cs : List Char) : Prop :=
  ∀ c ∈ cs, isBlank c

/-- The text neither begins nor ends with a blank. -/
structure Bare (cs : List Char) : Prop where
  head : ∀ c ∈ cs.head?, isBlank c = false
  last : ∀ c ∈ cs.getLast?, isBlank c = false

instance (cs : List Char) : Decidable (AllBlank cs) :=
  decidable_of_iff (cs.all isBlank = true) List.all_eq_true

theorem bare_iff {cs : List Char} :
    Bare cs ↔ cs.head?.any isBlank = false ∧ cs.getLast?.any isBlank = false := by
  simp only [Option.any_eq_false]
  exact ⟨fun h => ⟨h.head, h.last⟩, fun h => ⟨h.1, h.2⟩⟩

instance (cs : List Char) : Decidable (Bare cs) :=
  decidable_of_iff _ bare_iff.symm

theorem allBlank_nil : AllBlank [] := fun _ hc => absurd hc List.not_mem_nil

theorem AllBlank.append {before after : List Char} (hbefore : AllBlank before)
    (hafter : AllBlank after) : AllBlank (before ++ after) := by
  intro c hc
  rcases List.mem_append.1 hc with h | h
  · exact hbefore c h
  · exact hafter c h

theorem AllBlank.reverse {blanks : List Char} (h : AllBlank blanks) :
    AllBlank blanks.reverse := by
  intro c hc
  exact h c (List.mem_reverse.1 hc)

theorem AllBlank.not_mem {blanks : List Char} (h : AllBlank blanks) {c : Char}
    (hc : isBlank c = false) : c ∉ blanks := by
  intro hmem
  exact Bool.false_ne_true (hc.symm.trans (h c hmem))

theorem trimStart_of_head {cs : List Char} (h : ∀ c ∈ cs.head?, isBlank c = false) :
    trimStart cs = cs := by
  cases cs with
  | nil => rfl
  | cons c cs =>
    have hc : isBlank c = false := h c rfl
    rw [trimStart_cons, hc, if_neg Bool.false_ne_true]

theorem trimEnd_eq_reverse (cs : List Char) :
    trimEnd cs = (trimStart cs.reverse).reverse := rfl

theorem trimEnd_of_getLast {cs : List Char} (h : ∀ c ∈ cs.getLast?, isBlank c = false) :
    trimEnd cs = cs := by
  rw [trimEnd_eq_reverse, trimStart_of_head, List.reverse_reverse]
  rwa [List.head?_reverse]

theorem trimEnd_append {blanks : List Char} (h : AllBlank blanks) (cs : List Char) :
    trimEnd (cs ++ blanks) = trimEnd cs := by
  rw [trimEnd_eq_reverse, List.reverse_append, trimStart_append h.reverse, trimEnd_eq_reverse]

theorem trim_of_bare {before core after : List Char} (hbefore : AllBlank before)
    (hcore : Bare core) (hafter : AllBlank after) : trim (before ++ core ++ after) = core := by
  rw [trim, List.append_assoc, trimStart_append hbefore]
  cases core with
  | nil =>
    rw [List.nil_append, trimStart_eq_nil_iff.2 hafter, trimEnd_nil]
  | cons c core =>
    have hhead : ∀ d ∈ (c :: core ++ after).head?, isBlank d = false := hcore.head
    rw [trimStart_of_head hhead, trimEnd_append hafter, trimEnd_of_getLast hcore.last]

theorem exists_eq_append_trimStart (cs : List Char) :
    ∃ before, AllBlank before ∧ cs = before ++ trimStart cs := by
  induction cs with
  | nil => exact ⟨[], allBlank_nil, rfl⟩
  | cons c cs ih =>
    rw [trimStart_cons]
    cases hc : isBlank c with
    | false => exact ⟨[], allBlank_nil, rfl⟩
    | true =>
      obtain ⟨before, hbefore, hcs⟩ := ih
      refine ⟨c :: before, ?_, congrArg (c :: ·) hcs⟩
      intro d hd
      rcases List.mem_cons.1 hd with rfl | hd
      · exact hc
      · exact hbefore d hd

theorem exists_eq_trimEnd_append (cs : List Char) :
    ∃ after, AllBlank after ∧ cs = trimEnd cs ++ after := by
  obtain ⟨before, hbefore, hcs⟩ := exists_eq_append_trimStart cs.reverse
  refine ⟨before.reverse, hbefore.reverse, ?_⟩
  rw [trimEnd_eq_reverse, ← List.reverse_append, ← hcs, List.reverse_reverse]

/-- Trimming takes nothing but blanks off a text. -/
theorem exists_eq_append_trim_append (cs : List Char) :
    ∃ before after, AllBlank before ∧ AllBlank after ∧ cs = before ++ trim cs ++ after := by
  obtain ⟨before, hbefore, hstart⟩ := exists_eq_append_trimStart cs
  obtain ⟨after, hafter, hend⟩ := exists_eq_trimEnd_append (trimStart cs)
  refine ⟨before, after, hbefore, hafter, ?_⟩
  rw [List.append_assoc, trim, ← hend]
  exact hstart

theorem head_trimStart {cs : List Char} {c : Char} (h : (trimStart cs).head? = some c) :
    isBlank c = false := by
  induction cs with
  | nil => cases h
  | cons d cs ih =>
    rw [trimStart_cons] at h
    cases hd : isBlank d with
    | false =>
      rw [hd, if_neg Bool.false_ne_true, List.head?_cons] at h
      rwa [← Option.some.inj h]
    | true =>
      rw [hd, if_pos rfl] at h
      exact ih h

theorem bare_trim (cs : List Char) : Bare (trim cs) := by
  constructor
  · intro c hc
    obtain ⟨after, _, hend⟩ := exists_eq_trimEnd_append (trimStart cs)
    have hstart : (trimStart cs).head? = some c := by
      rw [hend, List.head?_append, ← trim, Option.mem_def.1 hc, Option.some_or]
    exact head_trimStart hstart
  · intro c hc
    rw [trim, trimEnd_eq_reverse, List.getLast?_reverse] at hc
    exact head_trimStart hc

theorem trim_eq_nil_iff {cs : List Char} : trim cs = [] ↔ AllBlank cs := by
  constructor
  · intro h
    obtain ⟨before, after, hbefore, hafter, hcs⟩ := exists_eq_append_trim_append cs
    rw [h, List.append_nil] at hcs
    rw [hcs]
    exact hbefore.append hafter
  · intro h
    rw [trim, trimStart_eq_nil_iff.2 h, trimEnd_nil]

theorem trim_append_blanks {before after : List Char} (hbefore : AllBlank before)
    (hafter : AllBlank after) (cs : List Char) : trim (before ++ cs ++ after) = trim cs := by
  obtain ⟨front, back, hfront, hback, hcs⟩ := exists_eq_append_trim_append cs
  have hwhole : before ++ cs ++ after = before ++ front ++ trim cs ++ (back ++ after) := by
    calc before ++ cs ++ after = before ++ (front ++ trim cs ++ back) ++ after := by rw [← hcs]
      _ = before ++ front ++ trim cs ++ (back ++ after) := by simp only [List.append_assoc]
  rw [hwhole, trim_of_bare (hbefore.append hfront) (bare_trim cs) (hback.append hafter)]

theorem trim_trimStart (cs : List Char) : trim (trimStart cs) = trim cs := by
  obtain ⟨before, hbefore, hcs⟩ := exists_eq_append_trimStart cs
  calc trim (trimStart cs) = trim (before ++ trimStart cs ++ []) :=
        (trim_append_blanks hbefore allBlank_nil _).symm
    _ = trim cs := by rw [List.append_nil, ← hcs]

theorem trim_trimEnd (cs : List Char) : trim (trimEnd cs) = trim cs := by
  obtain ⟨after, hafter, hcs⟩ := exists_eq_trimEnd_append cs
  calc trim (trimEnd cs) = trim ([] ++ trimEnd cs ++ after) :=
        (trim_append_blanks allBlank_nil hafter _).symm
    _ = trim cs := by rw [List.nil_append, ← hcs]

theorem trimStart_append_cons {c : Char} (hc : isBlank c = false) (before after : List Char) :
    trimStart (before ++ c :: after) = trimStart before ++ c :: after := by
  induction before with
  | nil => rw [List.nil_append, trimStart_cons, hc, if_neg Bool.false_ne_true]; rfl
  | cons b before ih =>
    rw [List.cons_append, trimStart_cons, trimStart_cons, ih]
    cases isBlank b <;> rfl

theorem trimEnd_append_cons {c : Char} (hc : isBlank c = false) (before after : List Char) :
    trimEnd (before ++ c :: after) = before ++ c :: trimEnd after := by
  have hreverse : (before ++ c :: after).reverse = after.reverse ++ c :: before.reverse := by simp
  rw [trimEnd_eq_reverse, hreverse, trimStart_append_cons hc, trimEnd_eq_reverse]
  simp

/-- What stands before a character that is no blank and what stands after it are trimmed at
their outer ends only. -/
theorem trim_append_cons {c : Char} (hc : isBlank c = false) (before after : List Char) :
    trim (before ++ c :: after) = trimStart before ++ c :: trimEnd after := by
  rw [trim, trimStart_append_cons hc, trimEnd_append_cons hc]

theorem not_mem_trimStart {c : Char} {cs : List Char} (h : c ∉ cs) : c ∉ trimStart cs :=
  fun hmem => h ((List.dropWhile_suffix isBlank).subset hmem)

theorem not_mem_trimEnd {c : Char} {cs : List Char} (h : c ∉ cs) : c ∉ trimEnd cs := by
  rw [trimEnd_eq_reverse, List.mem_reverse]
  exact not_mem_trimStart (by rwa [List.mem_reverse])

/-- Blanks that something else follows are all the blanks that the text begins with. -/
theorem append_cancel_blanks {before before' rest rest' : List Char}
    (hbefore : AllBlank before) (hbefore' : AllBlank before')
    (hrest : ∃ c ∈ rest.head?, isBlank c = false)
    (hrest' : ∃ c ∈ rest'.head?, isBlank c = false)
    (h : before ++ rest = before' ++ rest') : before = before' ∧ rest = rest' := by
  have htrim {blanks cs : List Char} (hblanks : AllBlank blanks)
      (hcs : ∃ c ∈ cs.head?, isBlank c = false) : trimStart (blanks ++ cs) = cs := by
    obtain ⟨c, hc, hblank⟩ := hcs
    rw [trimStart_append hblanks]
    apply trimStart_of_head
    intro d hd
    rwa [Option.mem_unique hd hc]
  have hsame : rest = rest' := by
    rw [← htrim hbefore hrest, h, htrim hbefore' hrest']
  subst hsame
  exact ⟨List.append_cancel_right h, rfl⟩

end Fixture.Text
