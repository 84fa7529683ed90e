/-!
# Generators

The generators that an invocation can name, in the order in which they are listed. Names are
compared letter by letter, case included.
-/

namespace Fixture

inductive Generator where
  | int
  | double
  | email
  | person
  | latitude
  | longitude
  | item
deriving DecidableEq, Repr

namespace Generator

def all : List Generator :=
  [.int, .double, .email, .person, .latitude, .longitude, .item]

def name : Generator → String
  | .int => "getInt"
  | .double => "getDouble"
  | .email => "getEmail"
  | .person => "getName"
  | .latitude => "getLatitude"
  | .longitude => "getLongitude"
  | .item => "getFromList"

def expects : Generator → String
  | .int => "0 or 2"
  | .double => "2"
  | .email => "no"
  | .person => "no"
  | .latitude => "no"
  | .longitude => "no"
  | .item => "at least 1"

def ofName? (name : String) : Option Generator :=
  all.find? fun generator => generator.name = name

def summary : String :=
  "GeneratorRegistry \x7b generators: [" ++
    ", ".intercalate (all.map fun generator => "\"" ++ generator.name ++ "\"") ++ "], .. \x7d"

theorem mem_all (generator : Generator) : generator ∈ all := by
  cases generator <;> decide

theorem name_injective {a b : Generator} (h : a.name = b.name) : a = b := by
  cases a <;> cases b <;> first | rfl | exact absurd h (by decide)

theorem ofName?_eq_some_iff {text : String} {generator : Generator} :
    ofName? text = some generator ↔ generator.name = text := by
  constructor
  · intro h
    unfold ofName? at h
    simpa using List.find?_some h
  · intro h
    subst h
    cases generator <;> rfl

end Generator

end Fixture
