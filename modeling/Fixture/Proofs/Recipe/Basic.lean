import Fixture.Recipe

/-!
# Recipes

A recipe says how a value is made: which generator makes it, with arguments that are read and
found good. Every handler does its work in two parts. Making a recipe looks at the text of an
invocation alone and is where every mistake in it is found; making a value from a recipe looks
at the source alone. So an invocation that fails leaves the source as it is.
-/

namespace Fixture

inductive Recipe where
  | int (min max : Int64)
  | double (min max : Binary64)
  | email
  | person
  | latitude
  | longitude
  | item (items : List String)
deriving DecidableEq, Repr

namespace Recipe

def between (min max : Int64) : Except ArgumentError Recipe :=
  if max < min then
    .error (.invertedRange .int (Value.int min).display (Value.int max).display)
  else .ok (.int min max)

def betweenDoubles (min max : Binary64) : Except ArgumentError Recipe :=
  if max.lt min then
    .error (.invertedRange .double (Value.double min).display (Value.double max).display)
  else if (Binary64.sub max min).isFinite then .ok (.double min max)
  else .error (.rangeTooWide .double (Value.double min).display (Value.double max).display)

def withoutArguments (generator : Generator) (recipe : Recipe) (arguments : List String) :
    Except ArgumentError Recipe :=
  if arguments.isEmpty then .ok recipe else .error (.count generator arguments.length)

def ofArguments (generator : Generator) (arguments : List String) :
    Except ArgumentError Recipe :=
  match generator with
  | .int =>
    match arguments with
    | [] => .ok (.int 0 1000)
    | [min, max] => do between (← readInt .int min) (← readInt .int max)
    | _ => .error (.count .int arguments.length)
  | .double =>
    match arguments with
    | [min, max] => do betweenDoubles (← readDouble .double min) (← readDouble .double max)
    | _ => .error (.count .double arguments.length)
  | .email => withoutArguments .email .email arguments
  | .person => withoutArguments .person .person arguments
  | .latitude => withoutArguments .latitude .latitude arguments
  | .longitude => withoutArguments .longitude .longitude arguments
  | .item =>
    match arguments with
    | [] => .error (.count .item 0)
    | _ => .ok (.item arguments)

def ofInvocation (call : Invocation) : Except InvocationError Recipe :=
  match Generator.ofName? call.generator with
  | none => .error (.unknownGenerator call.generator)
  | some generator =>
    match ofArguments generator call.arguments with
    | .error error => .error (.argument error)
    | .ok recipe => .ok recipe

def ofText (text : String) : Except InvocationError Recipe :=
  match Invocation.read text with
  | .error error => .error (.malformed error)
  | .ok call => ofInvocation call

def draw {σ : Type} [Source σ] : Recipe → Draw σ Value
  | .int min max => intBetween min max
  | .double min max => doubleBetween min max
  | .email => emailAddress
  | .person => fullName
  | .latitude => someLatitude
  | .longitude => someLongitude
  | .item items => someItem items

variable {σ : Type} [Source σ]

/-- What is drawn by a recipe that was made, or else the mistake that was found. -/
def drawIfOk {ε : Type} (made : Except ε Recipe) (source : σ) :
    Except Halt (Except ε Value × σ) :=
  match made with
  | .error error => .ok (.error error, source)
  | .ok recipe =>
    match recipe.draw source with
    | .error halt => .error halt
    | .ok (value, source) => .ok (.ok value, source)

theorem run_draw (recipe : Recipe) (source : σ) :
    (liftM (recipe.draw : Draw σ Value) : ExceptT ArgumentError (Draw σ) Value).run source =
      drawIfOk (.ok recipe) source := by
  show (recipe.draw source >>= fun drawn => pure (Except.ok drawn.1, drawn.2)) = _
  rw [drawIfOk]
  cases recipe.draw source <;> rfl

theorem run_intIfOrdered (min max : Int64) (source : σ) :
    (intIfOrdered min max).run source = drawIfOk (between min max) source := by
  rw [intIfOrdered, between]
  by_cases hback : max < min
  · rw [if_pos hback, if_pos hback]
    rfl
  · rw [if_neg hback, if_neg hback, ← run_draw]
    rfl

theorem run_doubleIfOrdered (min max : Binary64) (source : σ) :
    (doubleIfOrdered min max).run source = drawIfOk (betweenDoubles min max) source := by
  rw [doubleIfOrdered, betweenDoubles]
  by_cases hback : max.lt min
  · rw [if_pos hback, if_pos hback]
    rfl
  · rw [if_neg hback, if_neg hback]
    cases hwidth : (Binary64.sub max min).isFinite with
    | false => rfl
    | true =>
      rw [if_pos rfl, ← run_draw]
      rfl

/-- Two bounds that are read one after the other: the first that is no bound is the mistake. -/
theorem run_bind_read {β : Type} {read : String → Except ArgumentError β}
    {make : β → β → Except ArgumentError Recipe}
    {draw : β → β → ExceptT ArgumentError (Draw σ) Value}
    (h : ∀ min max source, (draw min max).run source = drawIfOk (make min max) source)
    (first last : String) (source : σ) :
    (do draw (← read first) (← read last) : ExceptT ArgumentError (Draw σ) Value).run source =
      drawIfOk (do make (← read first) (← read last)) source := by
  cases read first with
  | error error => rfl
  | ok min =>
    cases read last with
    | error error => rfl
    | ok max => exact h min max source

theorem run_makeAlone (generator : Generator) (recipe : Recipe) (arguments : List String)
    (source : σ) :
    (makeAlone generator recipe.draw arguments).run source =
      drawIfOk (withoutArguments generator recipe arguments) source := by
  rw [makeAlone, withoutArguments]
  cases arguments with
  | nil => exact run_draw recipe source
  | cons first rest => rfl

/-- Every handler makes a recipe of its arguments and then draws. -/
theorem run_handler (generator : Generator) (arguments : List String) (source : σ) :
    (handler generator arguments).run source =
      drawIfOk (ofArguments generator arguments) source := by
  cases generator with
  | int =>
    rcases arguments with _ | ⟨first, _ | ⟨last, _ | ⟨third, rest⟩⟩⟩
    · exact run_intIfOrdered 0 1000 source
    · rfl
    · exact run_bind_read run_intIfOrdered first last source
    · rfl
  | double =>
    rcases arguments with _ | ⟨first, _ | ⟨last, _ | ⟨third, rest⟩⟩⟩
    · rfl
    · rfl
    · exact run_bind_read run_doubleIfOrdered first last source
    · rfl
  | email => exact run_makeAlone .email .email arguments source
  | person => exact run_makeAlone .person .person arguments source
  | latitude => exact run_makeAlone .latitude .latitude arguments source
  | longitude => exact run_makeAlone .longitude .longitude arguments source
  | item =>
    cases arguments with
    | nil => rfl
    | cons first rest => exact run_draw (item (first :: rest)) source

/-- An invocation is read before anything is drawn. -/
theorem invoke_eq (call : Invocation) (source : σ) :
    invoke call source = drawIfOk (ofInvocation call) source := by
  rw [invoke, ofInvocation]
  cases Generator.ofName? call.generator with
  | none => rfl
  | some generator =>
    simp only [run_handler]
    cases ofArguments generator call.arguments with
    | error error => rfl
    | ok recipe =>
      dsimp only [drawIfOk]
      rcases recipe.draw source with halt | ⟨value, later⟩
      · rfl
      · rfl

theorem invokeText_eq (text : String) (source : σ) :
    invokeText text source = drawIfOk (ofText text) source := by
  rw [invokeText, ofText]
  cases Invocation.read text with
  | error error => rfl
  | ok call => exact invoke_eq call source

end Recipe

end Fixture
