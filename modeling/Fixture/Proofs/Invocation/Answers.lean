import Fixture.Proofs.Invocation.Grammar
import Fixture.Proofs.Random.Steady
import Fixture.Proofs.Recipe.Mistakes

/-!
# What invocations are answered with

An invocation whose name no generator has is refused for its name, and otherwise for the
mistake in its arguments if there is one. Every other invocation makes a value. The source has
no part in which of the two happens, and an invocation that is refused draws nothing from it.
-/

namespace Fixture

/-! The text of a generator with its arguments -/

theorem Generator.bare_name (generator : Generator) : Text.Bare generator.name.toList := by
  cases generator <;> decide

theorem Generator.opening_not_mem_name (generator : Generator) :
    '(' ∉ generator.name.toList := by
  cases generator <;> decide

theorem Generator.name_ne_empty (generator : Generator) : generator.name ≠ "" := by
  cases generator <;> decide

theorem Generator.read_call (generator : Generator) {arguments : List String}
    (hne : arguments ≠ [""]) (hcomma : ∀ argument ∈ arguments, ',' ∉ argument.toList)
    (hclosing : ∀ argument ∈ arguments, ')' ∉ argument.toList) :
    Invocation.read (generator.name ++ "(" ++ ",".intercalate arguments ++ ")") =
      .ok ⟨generator.name, arguments⟩ := by
  have hgood : Invocation.WellFormed ⟨generator.name, arguments⟩ :=
    ⟨generator.name_ne_empty, generator.bare_name, generator.opening_not_mem_name, hcomma,
      hclosing, hne⟩
  simpa [Invocation.spelled, Invocation.Spacing.none] using
    Invocation.read_spelled hgood Invocation.Spacing.none

theorem read_blank_argument (generator : Generator) {c : Char} (hc : Text.isBlank c) :
    Invocation.read (generator.name ++ "(" ++ String.singleton c ++ ")") =
      .ok ⟨generator.name, [String.singleton c]⟩ := by
  have hne {d : Char} (hd : Text.isBlank d = false) :
      ∀ argument ∈ [String.singleton c], d ∉ argument.toList := by
    intro argument hargument
    rw [List.mem_singleton.1 hargument, String.toList_singleton, List.mem_singleton]
    rintro rfl
    exact Bool.false_ne_true (hd.symm.trans hc)
  simpa using generator.read_call (by simp) (hne (by decide)) (hne (by decide))

theorem Generator.ofName?_eq_none_iff {name : String} :
    Generator.ofName? name = none ↔ name ∉ Generator.all.map Generator.name := by
  rw [Generator.ofName?, List.find?_eq_none, List.mem_map]
  simp

namespace Invocation

/-- The error with which an invocation is refused. -/
inductive Wrong (call : Invocation) : InvocationError → Prop
  | unknownGenerator (h : call.generator ∉ Generator.all.map Generator.name) :
      Wrong call (.unknownGenerator call.generator)
  | argument {generator : Generator} {error : ArgumentError}
      (hname : generator.name = call.generator)
      (h : Recipe.Mistaken call.arguments generator error) :
      Wrong call (.argument error)

/-- The invocation makes a value. -/
def Usable (call : Invocation) : Prop :=
  ∃ generator : Generator, generator.name = call.generator ∧
    Recipe.Usable call.arguments generator

theorem ofInvocation_of_none {call : Invocation}
    (hname : Generator.ofName? call.generator = none) :
    Recipe.ofInvocation call = .error (.unknownGenerator call.generator) := by
  simp only [Recipe.ofInvocation, hname]

theorem ofInvocation_of_error {call : Invocation} {generator : Generator}
    (hname : Generator.ofName? call.generator = some generator) {error : ArgumentError}
    (h : Recipe.ofArguments generator call.arguments = .error error) :
    Recipe.ofInvocation call = .error (.argument error) := by
  simp only [Recipe.ofInvocation, hname, h]

theorem ofInvocation_of_ok {call : Invocation} {generator : Generator}
    (hname : Generator.ofName? call.generator = some generator) {recipe : Recipe}
    (h : Recipe.ofArguments generator call.arguments = .ok recipe) :
    Recipe.ofInvocation call = .ok recipe := by
  simp only [Recipe.ofInvocation, hname, h]

theorem ofInvocation_eq_error_iff {call : Invocation} {error : InvocationError} :
    Recipe.ofInvocation call = .error error ↔ call.Wrong error := by
  constructor
  · intro h
    cases hname : Generator.ofName? call.generator with
    | none =>
      rw [ofInvocation_of_none hname] at h
      rw [← Except.error.inj h]
      exact .unknownGenerator (Generator.ofName?_eq_none_iff.1 hname)
    | some generator =>
      cases harguments : Recipe.ofArguments generator call.arguments with
      | error mistake =>
        rw [ofInvocation_of_error hname harguments] at h
        rw [← Except.error.inj h]
        exact .argument (Generator.ofName?_eq_some_iff.1 hname)
          (Recipe.ofArguments_eq_error_iff.1 harguments)
      | ok recipe =>
        rw [ofInvocation_of_ok hname harguments] at h
        cases h
  · intro h
    cases h with
    | unknownGenerator h => exact ofInvocation_of_none (Generator.ofName?_eq_none_iff.2 h)
    | argument hname h =>
      exact ofInvocation_of_error (Generator.ofName?_eq_some_iff.2 hname)
        (Recipe.ofArguments_eq_error_iff.2 h)

theorem exists_ofInvocation_eq_iff {call : Invocation} :
    (∃ recipe, Recipe.ofInvocation call = .ok recipe) ↔ call.Usable := by
  constructor
  · rintro ⟨recipe, h⟩
    cases hname : Generator.ofName? call.generator with
    | none =>
      rw [ofInvocation_of_none hname] at h
      cases h
    | some generator =>
      cases harguments : Recipe.ofArguments generator call.arguments with
      | error mistake =>
        rw [ofInvocation_of_error hname harguments] at h
        cases h
      | ok recipe =>
        exact ⟨generator, Generator.ofName?_eq_some_iff.1 hname,
          Recipe.exists_ofArguments_eq_iff.1 ⟨recipe, harguments⟩⟩
  · rintro ⟨generator, hname, husable⟩
    obtain ⟨recipe, harguments⟩ := Recipe.exists_ofArguments_eq_iff.2 husable
    exact ⟨recipe, ofInvocation_of_ok (Generator.ofName?_eq_some_iff.2 hname) harguments⟩

section Invoke

variable {σ : Type} [Source σ] {call : Invocation}

theorem invoke_of_error {error : InvocationError}
    (h : Recipe.ofInvocation call = .error error) (source : σ) :
    Recipe.invoke call source = .ok (.error error, source) := by
  rw [Recipe.invoke_eq, h, Recipe.drawIfOk]

theorem invoke_of_ok {recipe : Recipe} (h : Recipe.ofInvocation call = .ok recipe)
    (source : σ) :
    Recipe.invoke call source = .error .endless ∨
      ∃ value later, Recipe.invoke call source = .ok (.ok value, later) := by
  rw [Recipe.invoke_eq_draw h]
  rcases Recipe.yields_draw (Recipe.sound_of_ofInvocation h) source with
    hdraw | ⟨value, later, _, hdraw⟩
  · exact Or.inl (Draw.bind_of_error hdraw _)
  · exact Or.inr ⟨value, later, Draw.bind_of_ok hdraw _⟩

/-- Whether an invocation is refused is not up to the source, and nothing is drawn for one
that is. -/
theorem invoke_eq_error_iff {error : InvocationError} {source later : σ} :
    Recipe.invoke call source = .ok (.error error, later) ↔
      Recipe.ofInvocation call = .error error ∧ later = source := by
  constructor
  · intro h
    cases hread : Recipe.ofInvocation call with
    | error other =>
      rw [invoke_of_error hread, Except.ok.injEq, Prod.mk.injEq] at h
      rw [Except.error.inj h.1]
      exact ⟨rfl, h.2.symm⟩
    | ok recipe =>
      rcases invoke_of_ok hread source with hends | ⟨value, last, hvalue⟩
      · rw [hends] at h
        cases h
      · rw [hvalue] at h
        cases h
  · rintro ⟨h, rfl⟩
    exact invoke_of_error h later

theorem exists_invoke_eq_iff {source : σ} (hends : Recipe.invoke call source ≠ .error .endless) :
    (∃ value later, Recipe.invoke call source = .ok (.ok value, later)) ↔
      ∃ recipe, Recipe.ofInvocation call = .ok recipe := by
  constructor
  · rintro ⟨value, later, h⟩
    cases hread : Recipe.ofInvocation call with
    | error error =>
      rw [invoke_of_error hread] at h
      cases h
    | ok recipe => exact ⟨recipe, rfl⟩
  · rintro ⟨recipe, hread⟩
    exact (invoke_of_ok hread source).resolve_left hends

theorem invoke_ne_endless [Steady σ] (call : Invocation) (source : σ) :
    Recipe.invoke call source ≠ .error .endless := by
  cases hread : Recipe.ofInvocation call with
  | error error =>
    rw [invoke_of_error hread]
    intro h
    cases h
  | ok recipe =>
    rw [Recipe.invoke_eq_draw hread]
    exact (Recipe.ends_draw recipe).bind (fun _ => Draw.ends_pure _) source

theorem invokeText_ne_endless [Steady σ] (text : String) (source : σ) :
    Recipe.invokeText text source ≠ .error .endless := by
  rw [Recipe.invokeText]
  cases Invocation.read text with
  | error error =>
    intro h
    cases h
  | ok call => exact invoke_ne_endless call source

end Invoke

end Invocation

/-- A generator's name and arguments in parentheses make what the recipe draws. -/
theorem Generator.invokeText_call {σ : Type} [Source σ] (generator : Generator)
    {arguments : List String} (hne : arguments ≠ [""])
    (hcomma : ∀ argument ∈ arguments, ',' ∉ argument.toList)
    (hclosing : ∀ argument ∈ arguments, ')' ∉ argument.toList) {recipe : Recipe}
    (h : Recipe.ofArguments generator arguments = .ok recipe) (source : σ) :
    Recipe.invokeText (generator.name ++ "(" ++ ",".intercalate arguments ++ ")") source =
      (recipe.draw >>= fun value => pure (.ok value) : Draw σ (Except InvocationError Value))
        source := by
  have hname : Generator.ofName? generator.name = some generator :=
    Generator.ofName?_eq_some_iff.2 rfl
  rw [Recipe.invokeText, generator.read_call hne hcomma hclosing]
  exact Recipe.invoke_eq_draw (Invocation.ofInvocation_of_ok hname h) source

section Invocations

variable {σ : Type} [Source σ]

/-- Whatever the source is, an invocation is refused with exactly the error that the table
gives, drawing nothing, and makes a value exactly if the table says that it is usable. So a
blank between the parentheses is an argument too many where none is taken. From a steady
source every run comes to an end. -/
theorem invocations_answered_or_refused (source : σ) :
    (∀ (call : Invocation) (error : InvocationError) (later : σ),
      Recipe.invoke call source = .ok (.error error, later) ↔
        call.Wrong error ∧ later = source) ∧
    (∀ call : Invocation, Recipe.invoke call source ≠ .error .endless →
      ((∃ value later, Recipe.invoke call source = .ok (.ok value, later)) ↔ call.Usable)) ∧
    (∀ generator ∈ [Generator.email, .person, .latitude, .longitude], ∀ c, Text.isBlank c →
      ∃ call, Invocation.read (generator.name ++ "(" ++ String.singleton c ++ ")") = .ok call ∧
        Recipe.invoke call source =
          .ok (.error (.argument (.count generator 1)), source)) ∧
    (Steady σ → ∀ call : Invocation, Recipe.invoke call source ≠ .error .endless) := by
  refine ⟨?_, ?_, ?_, ?_⟩
  · intro call error later
    rw [Invocation.invoke_eq_error_iff, Invocation.ofInvocation_eq_error_iff]
  · intro call hends
    rw [Invocation.exists_invoke_eq_iff hends, Invocation.exists_ofInvocation_eq_iff]
  · intro generator hgenerator c hc
    have hcount : ¬ generator.Takes [String.singleton c].length := by
      cases generator with
      | email | person | latitude | longitude => exact Nat.one_ne_zero
      | int | double | item => exact absurd hgenerator (by decide)
    have hwrong : Invocation.Wrong ⟨generator.name, [String.singleton c]⟩
        (.argument (.count generator 1)) := .argument rfl (.count hcount)
    exact ⟨_, read_blank_argument generator hc,
      Invocation.invoke_of_error (Invocation.ofInvocation_eq_error_iff.2 hwrong) source⟩
  · intro _ call
    exact Invocation.invoke_ne_endless call source

/-- The first of two wrong bounds is quoted as it stands, bounds in order make a value from a
script, and a blank is too many for an address. -/
theorem invocations_answered_or_refused_bounds :
    let source := Script.ofWords [7]
    Recipe.invoke ⟨"getInt", [" x", "1.5"]⟩ source =
      .ok (.error (.argument (.notInteger .int " x")), source) ∧
    (∃ value later, Recipe.invoke ⟨"getDouble", ["-1e3 ", "2.5"]⟩ source =
      .ok (.ok value, later)) ∧
    ∃ call, Invocation.read "getEmail(\t)" = .ok call ∧
      Recipe.invoke call source = .ok (.error (.argument (.count .email 1)), source) := by
  intro source
  obtain ⟨hrefused, hanswered, hblank, hsteady⟩ := invocations_answered_or_refused source
  have hwrong : Invocation.Wrong ⟨"getInt", [" x", "1.5"]⟩
      (.argument (.notInteger .int " x")) :=
    .argument rfl (.notInteger rfl (by decide +kernel))
  have husable : Invocation.Usable ⟨"getDouble", ["-1e3 ", "2.5"]⟩ :=
    ⟨.double, rfl, ⟨0xC08F400000000000⟩, ⟨0x4004000000000000⟩, by decide +kernel,
      by decide +kernel, by decide +kernel⟩
  refine ⟨(hrefused _ _ _).2 ⟨hwrong, rfl⟩, ?_, ?_⟩
  · exact (hanswered _ (hsteady inferInstance _)).2 husable
  · exact hblank .email List.mem_cons_self '\t' (by decide)

end Invocations

end Fixture
