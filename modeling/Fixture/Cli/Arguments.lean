import Fixture.Text.Integer
import Fixture.Text.Split

/-!
# Command line arguments

A command takes options in any order and nothing else. An option is given by its long name
or, if it has one, by its letter, and takes a value or none:

    --name value   --name=value   -x value   -xvalue   -x=value

A value that stands alone must not begin with a dash, unless it is just a dash. An option is
given once at most. A path is not empty, a number is a word of 64 bits with a plus sign or
none. Arguments are looked at from left to right, and the first one that is wrong, or that
asks for help, decides. Two dashes alone say that no option follows, and nothing else can.
-/

namespace Fixture.Cli

inductive Refusal where
  | usage
  | help
deriving DecidableEq, Repr

inductive Key where
  | schema
  | seed
  | count
  | output
  | pretty
  | typed
  | help
deriving DecidableEq, Repr

inductive Takes where
  | nothing
  | path
  | number
deriving DecidableEq, Repr

namespace Key

def longName : Key → String
  | .schema => "schema"
  | .seed => "seed"
  | .count => "count"
  | .output => "output"
  | .pretty => "pretty"
  | .typed => "typed"
  | .help => "help"

def letter? : Key → Option Char
  | .schema => some 's'
  | .count => some 'n'
  | .output => some 'o'
  | .help => some 'h'
  | _ => none

def takes : Key → Takes
  | .schema => .path
  | .seed => .number
  | .count => .number
  | .output => .path
  | .pretty => .nothing
  | .typed => .nothing
  | .help => .nothing

def accepts (key : Key) (value : String) : Bool :=
  match key.takes with
  | .nothing => true
  | .path => !value.isEmpty
  | .number => (Text.word64? value.toList).isSome

end Key

/-- What an argument is: two dashes, an option with a value that is part of it or not, or
nothing that a command knows. -/
inductive Argument where
  | separator
  | option (key : Key) (value : Option String)
  | unknown
deriving DecidableEq, Repr

/-- An option by its long name. A value can only be part of it if the option takes one. -/
def longOption (keys : List Key) (name : List Char) (value : Option String) : Argument :=
  match keys.find? fun key => key.longName = String.ofList name with
  | none => .unknown
  | some key => if key.takes = .nothing ∧ value.isSome then .unknown else .option key value

def shortOption (keys : List Key) (letter : Char) (rest : List Char) : Argument :=
  match keys.find? fun key => key.letter? = some letter with
  | none => .unknown
  | some key =>
    if key.takes = .nothing then .option key none
    else match rest with
      | [] => .option key none
      | '=' :: value => .option key (some (String.ofList value))
      | value => .option key (some (String.ofList value))

def Argument.ofText (keys : List Key) (text : String) : Argument :=
  match text.toList with
  | ['-', '-'] => .separator
  | '-' :: '-' :: rest =>
    match Text.cut? '=' rest with
    | none => longOption keys rest none
    | some (name, value) => longOption keys name (some (String.ofList value))
  | '-' :: letter :: rest => shortOption keys letter rest
  | _ => .unknown

/-- Whether a text can stand alone as the value of an option. -/
def standsAlone (text : String) : Bool :=
  text = "-" || text.toList.head? ≠ some '-'

/-- Options that were given, each with its value; an option that takes none has an empty one. -/
abbrev Given := List (Key × String)

def Given.value? (given : Given) (key : Key) : Option String :=
  (given.find? fun pair => pair.1 = key).map Prod.snd

def Given.take (given : Given) (key : Key) (value : String) : Except Refusal Given :=
  if key = .help then .error .help
  else if (given.value? key).isSome then .error .usage
  else if key.accepts value then .ok (given ++ [(key, value)])
  else .error .usage

def readArguments (keys : List Key) (given : Given) : List String → Except Refusal Given
  | [] => .ok given
  | text :: rest =>
    match Argument.ofText keys text with
    | .unknown => .error .usage
    | .separator => if rest.isEmpty then .ok given else .error .usage
    | .option key value =>
      if key.takes = .nothing then
        match given.take key "" with
        | .error refusal => .error refusal
        | .ok given => readArguments keys given rest
      else match value, rest with
        | some value, rest =>
          match given.take key value with
          | .error refusal => .error refusal
          | .ok given => readArguments keys given rest
        | none, [] => .error .usage
        | none, value :: rest =>
          if standsAlone value then
            match given.take key value with
            | .error refusal => .error refusal
            | .ok given => readArguments keys given rest
          else .error .usage

end Fixture.Cli
