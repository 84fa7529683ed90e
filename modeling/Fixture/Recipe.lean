import Fixture.Decimal.Read
import Fixture.Generator
import Fixture.Invocation
import Fixture.People.FirstNames
import Fixture.People.LastNames
import Fixture.Random.Uniform
import Fixture.Text.Integer
import Fixture.Value

/-!
# Making values

Each generator has a handler, which is given the arguments of an invocation as they were
written. It looks at them first, and only when they are good does it draw a value from the
source. Bounds are read without the blanks around them, but a mistake quotes them as they were
written. An invocation is answered by the handler of the generator that it names.
-/

namespace Fixture

inductive ArgumentError where
  | count (generator : Generator) (found : Nat)
  | notInteger (generator : Generator) (argument : String)
  | notNumber (generator : Generator) (argument : String)
  | invertedRange (generator : Generator) (min max : String)
  | rangeTooWide (generator : Generator) (min max : String)
deriving DecidableEq, Repr

def ArgumentError.message : ArgumentError → String
  | .count generator found =>
    generator.name ++ " expects " ++ generator.expects ++ " argument(s), got " ++
      toString found
  | .notInteger generator argument =>
    generator.name ++ ": '" ++ argument ++ "' is not an integer"
  | .notNumber generator argument =>
    generator.name ++ ": '" ++ argument ++ "' is not a finite number"
  | .invertedRange generator min max =>
    generator.name ++ ": min " ++ min ++ " is greater than max " ++ max
  | .rangeTooWide generator min max =>
    generator.name ++ ": range [" ++ min ++ ", " ++ max ++ ") is too wide to sample"

inductive InvocationError where
  | malformed (error : Invocation.SyntaxError)
  | unknownGenerator (name : String)
  | argument (error : ArgumentError)
deriving DecidableEq, Repr

def InvocationError.message : InvocationError → String
  | .malformed error => error.message
  | .unknownGenerator name => "unknown generator '" ++ name ++ "'"
  | .argument error => error.message

namespace Recipe

def readInt (generator : Generator) (argument : String) : Except ArgumentError Int64 :=
  match Text.int64? (Text.trim argument.toList) with
  | some n => .ok n
  | none => .error (.notInteger generator argument)

def readDouble (generator : Generator) (argument : String) :
    Except ArgumentError Binary64 :=
  match Decimal.readBinary64? (Text.trim argument.toList) with
  | some x => if x.isFinite then .ok x else .error (.notNumber generator argument)
  | none => .error (.notNumber generator argument)

def exampleDomains : Array String :=
  #["com", "net", "org"]

-- a latitude starts at -90, a longitude goes from -180 to 180
def southPole : Binary64 := ⟨0xC056800000000000⟩

/-- The double after 180, which the largest unit stretches to 180. -/
def latitudeWidth : Binary64 := ⟨0x4066800000000001⟩

def westEnd : Binary64 := ⟨0xC066800000000000⟩

def eastEnd : Binary64 := ⟨0x4066800000000000⟩

section Handlers

variable {σ : Type} [Source σ]

/-- What a generator does with its arguments: a value is drawn, or they are found wrong. -/
abbrev Handler (σ : Type) := List String → ExceptT ArgumentError (Draw σ) Value

def intBetween (min max : Int64) : Draw σ Value := do
  return .int (← Uniform.int64 min max)

def doubleBetween (min max : Binary64) : Draw σ Value := do
  return .double (← Uniform.double min max)

def emailAddress : Draw σ Value := do
  let first ← Uniform.item32 People.firstNames
  let domain ← Uniform.item32 exampleDomains
  return .text (String.ofList (first.toList.map Char.toLower) ++ "@example." ++ domain)

def fullName : Draw σ Value := do
  let first ← Uniform.item32 People.firstNames
  let last ← Uniform.item32 People.lastNames
  return .text (first ++ " " ++ last)

def someLatitude : Draw σ Value := do
  return .double (← Uniform.doubleWithin southPole latitudeWidth)

def someLongitude : Draw σ Value := do
  return .double (← Uniform.double westEnd eastEnd)

def someItem (items : List String) : Draw σ Value := do
  return .text (← Uniform.item64 items.toArray)

def intIfOrdered (min max : Int64) : ExceptT ArgumentError (Draw σ) Value := do
  if max < min then
    throw (.invertedRange .int (Value.int min).display (Value.int max).display)
  (intBetween min max : Draw σ Value)

def makeInt : Handler σ := fun arguments =>
  match arguments with
  | [] => intIfOrdered 0 1000
  | [min, max] => do intIfOrdered (← readInt .int min) (← readInt .int max)
  | _ => throw (.count .int arguments.length)

def doubleIfOrdered (min max : Binary64) : ExceptT ArgumentError (Draw σ) Value := do
  if max.lt min then
    throw (.invertedRange .double (Value.double min).display (Value.double max).display)
  if !(Binary64.sub max min).isFinite then
    throw (.rangeTooWide .double (Value.double min).display (Value.double max).display)
  (doubleBetween min max : Draw σ Value)

def makeDouble : Handler σ := fun arguments =>
  match arguments with
  | [min, max] => do doubleIfOrdered (← readDouble .double min) (← readDouble .double max)
  | _ => throw (.count .double arguments.length)

def makeAlone (generator : Generator) (draw : Draw σ Value) : Handler σ := fun arguments => do
  if !arguments.isEmpty then
    throw (.count generator arguments.length)
  draw

def makeItem : Handler σ := fun arguments => do
  if arguments.isEmpty then
    throw (.count .item 0)
  (someItem arguments : Draw σ Value)

def handler : Generator → Handler σ
  | .int => makeInt
  | .double => makeDouble
  | .email => makeAlone .email emailAddress
  | .person => makeAlone .person fullName
  | .latitude => makeAlone .latitude someLatitude
  | .longitude => makeAlone .longitude someLongitude
  | .item => makeItem

def invoke (call : Invocation) (source : σ) :
    Except Halt (Except InvocationError Value × σ) :=
  match Generator.ofName? call.generator with
  | none => .ok (.error (.unknownGenerator call.generator), source)
  | some generator =>
    match (handler generator call.arguments).run source with
    | .error halt => .error halt
    | .ok (.error error, source) => .ok (.error (.argument error), source)
    | .ok (.ok value, source) => .ok (.ok value, source)

def invokeText (text : String) (source : σ) :
    Except Halt (Except InvocationError Value × σ) :=
  match Invocation.read text with
  | .error error => .ok (.error (.malformed error), source)
  | .ok call => invoke call source

end Handlers

end Recipe

end Fixture
