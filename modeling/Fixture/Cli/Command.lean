import Fixture.Cli.Arguments
import Fixture.Value

/-!
# Commands

The commands of the program: make documents from a schema, check a schema, list the
generators. The schema and the seed can also come from the environment, where they are
looked for if the option is not given; they are then held to the same rules.
-/

namespace Fixture.Cli

structure GenerateOptions where
  schema : String
  seed : Option UInt64
  count : UInt64
  output : Option String
  pretty : Bool
  typed : Bool
deriving DecidableEq, Repr

def GenerateOptions.encoding (options : GenerateOptions) : Encoding :=
  if options.typed then .typed else .text

inductive Command where
  | generate (options : GenerateOptions)
  | check (schema : String)
  | generators
deriving DecidableEq, Repr

abbrev Environment := String → Option String

/-- The variable that stands in for an option. -/
def Key.variable? : Key → Option String
  | .schema => some "JSONGEN_SCHEMA"
  | .seed => some "JSONGEN_SEED"
  | _ => none

def valueOf (environment : Environment) (given : Given) (key : Key) :
    Except Refusal (Option String) :=
  match given.value? key with
  | some value => .ok (some value)
  | none =>
    match key.variable?.bind environment with
    | none => .ok none
    | some value => if key.accepts value then .ok (some value) else .error .usage

def requiredValue (environment : Environment) (given : Given) (key : Key) :
    Except Refusal String :=
  match valueOf environment given key with
  | .error refusal => .error refusal
  | .ok none => .error .usage
  | .ok (some value) => .ok value

def generateKeys : List Key :=
  [.schema, .seed, .count, .output, .pretty, .typed, .help]

def checkKeys : List Key :=
  [.schema, .help]

def GenerateOptions.read (environment : Environment) (arguments : List String) :
    Except Refusal GenerateOptions := do
  let given ← readArguments generateKeys [] arguments
  let schema ← requiredValue environment given .schema
  let seed ← valueOf environment given .seed
  return {
    schema
    seed := seed.bind fun text => Text.word64? text.toList
    count := ((given.value? .count).bind fun text => Text.word64? text.toList).getD 1
    output := given.value? .output
    pretty := (given.value? .pretty).isSome
    typed := (given.value? .typed).isSome }

def readCheck (environment : Environment) (arguments : List String) :
    Except Refusal String := do
  requiredValue environment (← readArguments checkKeys [] arguments) .schema

def commandNames : List String :=
  ["generate", "check", "generators", "help"]

def Command.read (environment : Environment) : List String → Except Refusal Command
  | "generate" :: arguments =>
    (GenerateOptions.read environment arguments).map .generate
  | "check" :: arguments => (readCheck environment arguments).map .check
  | "generators" :: arguments =>
    (readArguments [.help] [] arguments).map fun _ => .generators
  | ["help"] => .error .help
  | ["help", name] => if name ∈ commandNames then .error .help else .error .usage
  | argument :: _ =>
    match Argument.ofText [.help] argument with
    | .option .help _ => .error .help
    | _ => .error .usage
  | [] => .error .usage

end Fixture.Cli
