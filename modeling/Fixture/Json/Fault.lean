import Fixture.Text.Position

/-!
# What is wrong with a text that is no JSON

A fault is found with part of the text still unread. It is reported some bytes further on,
past the character that it is about, but never past the end of the text.
-/

namespace Fixture.Json

inductive Reason where
  | valueEnds
  | listEnds
  | objectEnds
  | stringEnds
  | valueExpected
  | wordExpected
  | colonExpected
  | itemSeparatorExpected
  | memberSeparatorExpected
  | nameExpected
  | trailingComma
  | trailingCharacters
  | tooDeep
  | controlCharacter
  | invalidEscape
  | loneSurrogate
  | surrogateEnds
  | invalidNumber
  | numberOutOfRange
deriving DecidableEq, Repr

def Reason.message : Reason → String
  | .valueEnds => "EOF while parsing a value"
  | .listEnds => "EOF while parsing a list"
  | .objectEnds => "EOF while parsing an object"
  | .stringEnds => "EOF while parsing a string"
  | .valueExpected => "expected value"
  | .wordExpected => "expected ident"
  | .colonExpected => "expected \x60:\x60"
  | .itemSeparatorExpected => "expected \x60,\x60 or \x60]\x60"
  | .memberSeparatorExpected => "expected \x60,\x60 or \x60\x7d\x60"
  | .nameExpected => "key must be a string"
  | .trailingComma => "trailing comma"
  | .trailingCharacters => "trailing characters"
  | .tooDeep => "recursion limit exceeded"
  | .controlCharacter =>
    "control character (\\u0000-\\u001F) found while parsing a string"
  | .invalidEscape => "invalid escape"
  | .loneSurrogate => "lone leading surrogate in hex escape"
  | .surrogateEnds => "unexpected end of hex escape"
  | .invalidNumber => "invalid number"
  | .numberOutOfRange => "number out of range"

/-- What is wrong, where reading stopped, and how many bytes further on it is reported. -/
structure Fault where
  reason : Reason
  unread : List Char
  beyond : Nat
deriving DecidableEq, Repr

def Fault.atEnd (reason : Reason) : Fault :=
  ⟨reason, [], 0⟩

/-- The first unread character is wrong, or the text ended before it. -/
def Fault.at (reason : Reason) (unread : List Char) : Fault :=
  ⟨reason, unread, 1⟩

structure SyntaxError where
  reason : Reason
  position : Text.Position
deriving DecidableEq, Repr

def Fault.inText (fault : Fault) (text : List Char) : SyntaxError :=
  let total := Text.byteCount text
  let place := total - Text.byteCount fault.unread + fault.beyond
  ⟨fault.reason, Text.position text (min total place)⟩

def SyntaxError.message (error : SyntaxError) : String :=
  error.reason.message ++ " at line " ++ toString error.position.line ++ " column " ++
    toString error.position.column

end Fixture.Json
