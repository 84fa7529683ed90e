import Fixture.Text.Blank
import Fixture.Text.Split

/-!
# Invocations

An invocation names a generator and gives its arguments in parentheses: `getInt(1,10)`.
Blanks around the whole and around the name do not count. The arguments run from the first
opening parenthesis to the first closing one after it and are cut at every comma; each is
kept as written, blanks included, and nothing between the parentheses is no argument.

A text that is no invocation has one fault, the first of: no opening parenthesis, no closing
one after it, no name, more text after the closing one.
-/

namespace Fixture

structure Invocation where
  generator : String
  arguments : List String
deriving DecidableEq, Repr

namespace Invocation

/-- Why a text is no invocation. Each fault quotes the whole text as it was given. -/
inductive SyntaxError where
  | missingOpening (text : String)
  | missingClosing (text : String)
  | emptyName (text : String)
  | trailing (text rest : String)
deriving DecidableEq, Repr

def SyntaxError.message : SyntaxError → String
  | .missingOpening text => "missing '(' in invocation '" ++ text ++ "'"
  | .missingClosing text => "missing ')' in invocation '" ++ text ++ "'"
  | .emptyName text => "missing generator name in invocation '" ++ text ++ "'"
  | .trailing text rest =>
    "unexpected '" ++ rest ++ "' after ')' in invocation '" ++ text ++ "'"

def readArguments (inside : List Char) : List String :=
  if inside.isEmpty then [] else (Text.pieces ',' inside).map String.ofList

def writeArguments (arguments : List String) : List Char :=
  Text.joined ',' (arguments.map String.toList)

def read (text : String) : Except SyntaxError Invocation :=
  match Text.cut? '(' (Text.trim text.toList) with
  | none => .error (.missingOpening text)
  | some (head, tail) =>
    match Text.cut? ')' tail with
    | none => .error (.missingClosing text)
    | some (inside, rest) =>
      let name := Text.trim head
      let rest := Text.trim rest
      if name.isEmpty then .error (.emptyName text)
      else if rest.isEmpty then .ok ⟨String.ofList name, readArguments inside⟩
      else .error (.trailing text (String.ofList rest))

def write (call : Invocation) : String :=
  call.generator ++ "(" ++ String.ofList (writeArguments call.arguments) ++ ")"

end Invocation

end Fixture
