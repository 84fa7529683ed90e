import Fixture.Proofs.Binary64.Nearest
import Fixture.Proofs.Recipe.Basic

/-!
# Mistakes in arguments

Which arguments a generator refuses, and with which error, is said here without the readers:
`Mistaken` lists the mistakes that arguments can have, `Usable` says which have none. The
mistakes come in an order, and arguments are refused with the first that they have: a wrong
number of arguments, the first argument that is no bound, a lower bound above the upper one,
doubles that are too far apart.
-/

namespace Fixture

def Generator.Takes : Generator → Nat → Prop
  | .int, n => n = 0 ∨ n = 2
  | .double, n => n = 2
  | .email, n | .person, n | .latitude, n | .longitude, n => n = 0
  | .item, n => n ≠ 0

namespace Recipe

def wholeBound? (argument : String) : Option Int64 :=
  Text.int64? (Text.trim argument.toList)

def finiteBound? (argument : String) : Option Binary64 :=
  (Decimal.readBinary64? (Text.trim argument.toList)).filter Binary64.isFinite

def firstUnread? {β : Type} (bound? : String → Option β) (arguments : List String) :
    Option String :=
  arguments.find? fun argument => (bound? argument).isNone

/-- The mistake in the arguments of a generator. -/
inductive Mistaken (arguments : List String) : Generator → ArgumentError → Prop
  | count {generator : Generator} (h : ¬ generator.Takes arguments.length) :
      Mistaken arguments generator (.count generator arguments.length)
  | notInteger {argument : String} (htwo : arguments.length = 2)
      (h : firstUnread? wholeBound? arguments = some argument) :
      Mistaken arguments .int (.notInteger .int argument)
  | invertedInts {min max : Int64} (h : arguments.map wholeBound? = [some min, some max])
      (hlt : max < min) :
      Mistaken arguments .int (.invertedRange .int (toString min.toInt) (toString max.toInt))
  | notNumber {argument : String} (htwo : arguments.length = 2)
      (h : firstUnread? finiteBound? arguments = some argument) :
      Mistaken arguments .double (.notNumber .double argument)
  | invertedDoubles {min max : Binary64}
      (h : arguments.map finiteBound? = [some min, some max]) (hlt : max.lt min) :
      Mistaken arguments .double
        (.invertedRange .double (Value.double min).display (Value.double max).display)
  | tooWide {min max : Binary64} (h : arguments.map finiteBound? = [some min, some max])
      (hle : min.le max) (hwide : (Binary64.sub max min).isInfinite) :
      Mistaken arguments .double
        (.rangeTooWide .double (Value.double min).display (Value.double max).display)

/-- The arguments of a generator that make a value. -/
def Usable (arguments : List String) : Generator → Prop
  | .int =>
    arguments = [] ∨ ∃ min max,
      arguments.map wholeBound? = [some min, some max] ∧ min ≤ max
  | .double => ∃ min max,
      arguments.map finiteBound? = [some min, some max] ∧ min.le max ∧
        (Binary64.sub max min).isFinite
  | .email | .person | .latitude | .longitude => arguments = []
  | .item => arguments ≠ []

/-! Two bounds -/

/-- The reader gives the bound that an argument is, or quotes an argument that is none. -/
def Reads {β : Type} (read : String → Except ArgumentError β) (bound? : String → Option β)
    (fault : String → ArgumentError) : Prop :=
  ∀ argument, read argument =
    match bound? argument with
    | some x => .ok x
    | none => .error (fault argument)

theorem reads_readInt (generator : Generator) :
    Reads (readInt generator) wholeBound? (.notInteger generator) := by
  intro argument
  rw [readInt, wholeBound?]
  cases Text.int64? (Text.trim argument.toList) <;> rfl

theorem reads_readDouble (generator : Generator) :
    Reads (readDouble generator) finiteBound? (.notNumber generator) := by
  intro argument
  rw [readDouble, finiteBound?]
  cases Decimal.readBinary64? (Text.trim argument.toList) with
  | none => rfl
  | some x => cases h : x.isFinite <;> simp [Option.filter, h]

section Bounds

variable {β : Type} {bound? : String → Option β} {read : String → Except ArgumentError β}
  {fault : String → ArgumentError}

theorem bind_read_of_unread (hread : Reads read bound? fault)
    (make : β → β → Except ArgumentError Recipe) {first second argument : String}
    (h : firstUnread? bound? [first, second] = some argument) :
    (do make (← read first) (← read second)) = .error (fault argument) := by
  rw [hread first, hread second]
  cases hfirst : bound? first with
  | none =>
    have hargument : first = argument := by simpa [firstUnread?, hfirst] using h
    rw [← hargument]
    rfl
  | some min =>
    cases hsecond : bound? second with
    | none =>
      have hargument : second = argument := by simpa [firstUnread?, hfirst, hsecond] using h
      rw [← hargument]
      rfl
    | some max => simp [firstUnread?, hfirst, hsecond] at h

theorem bind_read_of_bounds (hread : Reads read bound? fault)
    (make : β → β → Except ArgumentError Recipe) {first second : String} {min max : β}
    (h : [first, second].map bound? = [some min, some max]) :
    (do make (← read first) (← read second)) = make min max := by
  simp only [List.map_cons, List.map_nil, List.cons.injEq, and_true] at h
  rw [hread first, hread second, h.1, h.2]
  rfl

theorem unread_or_bounds (bound? : String → Option β) (first second : String) :
    (∃ argument, firstUnread? bound? [first, second] = some argument) ∨
      ∃ min max, [first, second].map bound? = [some min, some max] := by
  cases hfirst : bound? first with
  | none => exact Or.inl ⟨first, by simp [firstUnread?, hfirst]⟩
  | some min =>
    cases hsecond : bound? second with
    | none => exact Or.inl ⟨second, by simp [firstUnread?, hfirst, hsecond]⟩
    | some max => exact Or.inr ⟨min, max, by simp [hfirst, hsecond]⟩

theorem exists_eq_pair {arguments : List String} {min max : β}
    (h : arguments.map bound? = [some min, some max]) :
    ∃ first second, arguments = [first, second] := by
  obtain ⟨first, rest, rfl, _, hrest⟩ := List.map_eq_cons_iff.1 h
  obtain ⟨second, rest, rfl, _, hrest⟩ := List.map_eq_cons_iff.1 hrest
  rw [List.map_eq_nil_iff.1 hrest]
  exact ⟨first, second, rfl⟩

end Bounds

theorem ofArguments_int (first second : String) :
    ofArguments .int [first, second] =
      (do between (← readInt .int first) (← readInt .int second)) := rfl

theorem ofArguments_double (first second : String) :
    ofArguments .double [first, second] =
      (do betweenDoubles (← readDouble .double first) (← readDouble .double second)) := rfl

theorem display_int (n : Int64) : (Value.int n).display = toString n.toInt := by
  rw [Value.display]
  cases n.toInt with
  | ofNat m => rfl
  | negSucc m =>
    show String.ofList (['-'] ++ Nat.toDigits 10 (m + 1)) = "-" ++ Nat.repr (m + 1)
    rw [String.ofList_append]
    rfl

theorem between_of_lt {min max : Int64} (h : max < min) :
    between min max =
      .error (.invertedRange .int (toString min.toInt) (toString max.toInt)) := by
  rw [between, if_pos h, display_int, display_int]

theorem between_of_le {min max : Int64} (h : min ≤ max) :
    between min max = .ok (.int min max) :=
  if_neg (Int64.not_lt.2 h)

theorem isFinite_of_finiteBound {argument : String} {x : Binary64}
    (h : finiteBound? argument = some x) : x.isFinite :=
  (Option.filter_eq_some_iff.1 h).2

theorem isFinite_of_bounds {arguments : List String} {min max : Binary64}
    (h : arguments.map finiteBound? = [some min, some max]) : min.isFinite ∧ max.isFinite := by
  obtain ⟨first, second, rfl⟩ := exists_eq_pair h
  simp only [List.map_cons, List.map_nil, List.cons.injEq, and_true] at h
  exact ⟨isFinite_of_finiteBound h.1, isFinite_of_finiteBound h.2⟩

theorem betweenDoubles_of_lt {min max : Binary64} (h : max.lt min) :
    betweenDoubles min max =
      .error (.invertedRange .double (Value.double min).display (Value.double max).display) :=
  if_pos h

theorem betweenDoubles_of_le {min max : Binary64} (hmin : min.isFinite) (hmax : max.isFinite)
    (h : min.le max) :
    betweenDoubles min max =
      if (Binary64.sub max min).isFinite then .ok (.double min max)
      else
        .error (.rangeTooWide .double (Value.double min).display (Value.double max).display) := by
  rw [betweenDoubles, Binary64.lt_eq_not_le hmax hmin, h]
  rfl

/-! The table -/

theorem withoutArguments_of_ne {generator : Generator} {recipe : Recipe}
    {arguments : List String} (h : arguments.length ≠ 0) :
    withoutArguments generator recipe arguments =
      .error (.count generator arguments.length) := by
  cases arguments with
  | nil => exact absurd rfl h
  | cons argument arguments => rfl

/-- Arguments have a mistake or are usable. -/
theorem exists_mistaken_or_usable (arguments : List String) (generator : Generator) :
    (∃ error, Mistaken arguments generator error) ∨ Usable arguments generator := by
  by_cases htakes : generator.Takes arguments.length
  · cases generator with
    | int =>
      rcases htakes with hnone | htwo
      · exact Or.inr (Or.inl (List.length_eq_zero_iff.1 hnone))
      · match arguments, htwo with
        | [first, second], _ =>
          rcases unread_or_bounds wholeBound? first second with
            ⟨argument, hunread⟩ | ⟨min, max, hbounds⟩
          · exact Or.inl ⟨_, .notInteger rfl hunread⟩
          · by_cases hlt : max < min
            · exact Or.inl ⟨_, .invertedInts hbounds hlt⟩
            · exact Or.inr (Or.inr ⟨min, max, hbounds, Int64.not_lt.1 hlt⟩)
    | double =>
      match arguments, htakes with
      | [first, second], _ =>
        rcases unread_or_bounds finiteBound? first second with
          ⟨argument, hunread⟩ | ⟨min, max, hbounds⟩
        · exact Or.inl ⟨_, .notNumber rfl hunread⟩
        · obtain ⟨hmin, hmax⟩ := isFinite_of_bounds hbounds
          cases hlt : max.lt min with
          | true => exact Or.inl ⟨_, .invertedDoubles hbounds hlt⟩
          | false =>
            have hle := Binary64.le_of_lt_eq_false hmax hmin hlt
            cases hwidth : (Binary64.sub max min).isFinite with
            | true => exact Or.inr ⟨min, max, hbounds, hle, hwidth⟩
            | false =>
              refine Or.inl ⟨_, .tooWide hbounds hle ?_⟩
              rw [Binary64.isInfinite_sub hmax hmin, hwidth]
              rfl
    | email | person | latitude | longitude =>
      exact Or.inr (List.length_eq_zero_iff.1 htakes)
    | item => exact Or.inr (fun hnil => htakes (List.length_eq_zero_iff.2 hnil))
  · exact Or.inl ⟨_, .count htakes⟩

theorem Mistaken.ofArguments_eq {generator : Generator} {arguments : List String}
    {error : ArgumentError} (h : Mistaken arguments generator error) :
    ofArguments generator arguments = .error error := by
  cases h with
  | count h =>
    cases generator with
    | int =>
      match arguments, h with
      | [], h => exact absurd (Or.inl rfl) h
      | [_], _ => rfl
      | [_, _], h => exact absurd (Or.inr rfl) h
      | _ :: _ :: _ :: _, _ => rfl
    | double =>
      match arguments, h with
      | [], _ => rfl
      | [_], _ => rfl
      | [_, _], h => exact absurd rfl h
      | _ :: _ :: _ :: _, _ => rfl
    | email | person | latitude | longitude => exact withoutArguments_of_ne h
    | item =>
      match arguments, h with
      | [], _ => rfl
      | _ :: _, h => exact absurd (Nat.succ_ne_zero _) h
  | notInteger htwo h =>
    match arguments, htwo with
    | [first, second], _ =>
      rw [ofArguments_int, bind_read_of_unread (reads_readInt .int) between h]
  | invertedInts h hlt =>
    obtain ⟨first, second, rfl⟩ := exists_eq_pair h
    rw [ofArguments_int, bind_read_of_bounds (reads_readInt .int) between h,
      between_of_lt hlt]
  | notNumber htwo h =>
    match arguments, htwo with
    | [first, second], _ =>
      rw [ofArguments_double, bind_read_of_unread (reads_readDouble .double) betweenDoubles h]
  | invertedDoubles h hlt =>
    obtain ⟨first, second, rfl⟩ := exists_eq_pair h
    rw [ofArguments_double, bind_read_of_bounds (reads_readDouble .double) betweenDoubles h,
      betweenDoubles_of_lt hlt]
  | tooWide h hle hwide =>
    obtain ⟨first, second, rfl⟩ := exists_eq_pair h
    obtain ⟨hmin, hmax⟩ := isFinite_of_bounds h
    rw [Binary64.isInfinite_sub hmax hmin, Bool.not_eq_true'] at hwide
    rw [ofArguments_double, bind_read_of_bounds (reads_readDouble .double) betweenDoubles h,
      betweenDoubles_of_le hmin hmax hle, hwide]
    rfl

theorem Usable.exists_ofArguments_eq {generator : Generator} {arguments : List String}
    (h : Usable arguments generator) :
    ∃ recipe, ofArguments generator arguments = .ok recipe := by
  cases generator with
  | int =>
    rcases h with rfl | ⟨min, max, hbounds, hle⟩
    · exact ⟨_, rfl⟩
    · obtain ⟨first, second, rfl⟩ := exists_eq_pair hbounds
      rw [ofArguments_int, bind_read_of_bounds (reads_readInt .int) between hbounds]
      exact ⟨_, between_of_le hle⟩
  | double =>
    obtain ⟨min, max, hbounds, hle, hwidth⟩ := h
    obtain ⟨first, second, rfl⟩ := exists_eq_pair hbounds
    obtain ⟨hmin, hmax⟩ := isFinite_of_bounds hbounds
    rw [ofArguments_double, bind_read_of_bounds (reads_readDouble .double) betweenDoubles
      hbounds, betweenDoubles_of_le hmin hmax hle, hwidth]
    exact ⟨_, rfl⟩
  | email | person | latitude | longitude =>
    rw [show arguments = [] from h]
    exact ⟨_, rfl⟩
  | item =>
    match arguments, h with
    | [], h => exact absurd rfl h
    | _ :: _, _ => exact ⟨_, rfl⟩

theorem ofArguments_eq_error_iff {generator : Generator} {arguments : List String}
    {error : ArgumentError} :
    ofArguments generator arguments = .error error ↔ Mistaken arguments generator error := by
  constructor
  · intro h
    rcases exists_mistaken_or_usable arguments generator with ⟨other, hother⟩ | husable
    · rw [hother.ofArguments_eq] at h
      rwa [← Except.error.inj h]
    · obtain ⟨recipe, hrecipe⟩ := husable.exists_ofArguments_eq
      rw [hrecipe] at h
      cases h
  · exact Mistaken.ofArguments_eq

theorem exists_ofArguments_eq_iff {generator : Generator} {arguments : List String} :
    (∃ recipe, ofArguments generator arguments = .ok recipe) ↔ Usable arguments generator := by
  constructor
  · rintro ⟨recipe, h⟩
    rcases exists_mistaken_or_usable arguments generator with ⟨error, herror⟩ | husable
    · rw [herror.ofArguments_eq] at h
      cases h
    · exact husable
  · exact Usable.exists_ofArguments_eq

end Recipe

end Fixture
