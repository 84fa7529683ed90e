import Fixture.Json.Lexeme

/-!
# Reading JSON

A text is read lexeme by lexeme. What has been read so far is the state: the arrays and
objects that are still open, innermost first, and what is wanted next. Each lexeme takes one
state to the next or is a fault, and the end of the text is a fault unless a value stands
complete and alone. Arrays and objects may be open inside one another 127 deep.
-/

namespace Fixture.Json

/-- An open array with its items, or an open object with its members and the name of the
member whose value is being read. The latest item or member comes first. -/
inductive Frame where
  | items (read : List Json)
  | member (read : List (String × Json)) (name : String)

/-- What has been read, and what is wanted next: a value, a name for a member of the object
with these members, the colon after a name, or what may follow a value. -/
inductive State where
  | wantsValue (stack : List Frame)
  | wantsName (read : List (String × Json)) (stack : List Frame)
  | wantsColon (read : List (String × Json)) (name : String) (stack : List Frame)
  | holds (value : Json) (stack : List Frame)

def maxDepth : Nat := 127

def stepValue (stack : List Frame) (lexeme : Lexeme) : Except Fault State :=
  match lexeme.token with
  | .scalar found => found.map fun value => .holds value stack
  | .string found => found.map fun s => .holds (.string s) stack
  | .openArray =>
    if stack.length < maxDepth then .ok (.wantsValue (.items [] :: stack))
    else .error (.at .tooDeep lexeme.text)
  | .openObject =>
    if stack.length < maxDepth then .ok (.wantsName [] stack)
    else .error (.at .tooDeep lexeme.text)
  | .closeArray =>
    match stack with
    | .items [] :: stack => .ok (.holds (.array []) stack)
    | .items _ :: _ => .error (.at .trailingComma lexeme.text)
    | _ => .error (.at .valueExpected lexeme.text)
  | _ => .error (.at .valueExpected lexeme.text)

def stepName (read : List (String × Json)) (stack : List Frame) (lexeme : Lexeme) :
    Except Fault State :=
  match lexeme.token with
  | .string found => found.map fun name => .wantsColon read name stack
  | .closeObject =>
    if read.isEmpty then .ok (.holds (.object []) stack)
    else .error (.at .trailingComma lexeme.text)
  | _ => .error (.at .nameExpected lexeme.text)

def stepHolding (value : Json) (stack : List Frame) (lexeme : Lexeme) : Except Fault State :=
  match stack with
  | [] => .error (.at .trailingCharacters lexeme.text)
  | .items read :: stack =>
    match lexeme.token with
    | .comma => .ok (.wantsValue (.items (value :: read) :: stack))
    | .closeArray => .ok (.holds (.array (value :: read).reverse) stack)
    | _ => .error (.at .itemSeparatorExpected lexeme.text)
  | .member read name :: stack =>
    match lexeme.token with
    | .comma => .ok (.wantsName ((name, value) :: read) stack)
    | .closeObject => .ok (.holds (.object ((name, value) :: read).reverse) stack)
    | _ => .error (.at .memberSeparatorExpected lexeme.text)

def State.step (state : State) (lexeme : Lexeme) : Except Fault State :=
  match state with
  | .wantsValue stack => stepValue stack lexeme
  | .wantsName read stack => stepName read stack lexeme
  | .wantsColon read name stack =>
    match lexeme.token with
    | .colon => .ok (.wantsValue (.member read name :: stack))
    | _ => .error (.at .colonExpected lexeme.text)
  | .holds value stack => stepHolding value stack lexeme

def State.finish : State → Except Fault Json
  | .wantsValue (.items [] :: _) => .error (.atEnd .listEnds)
  | .wantsValue _ => .error (.atEnd .valueEnds)
  | .wantsName [] _ => .error (.atEnd .objectEnds)
  | .wantsName _ _ => .error (.atEnd .valueEnds)
  | .wantsColon _ _ _ => .error (.atEnd .objectEnds)
  | .holds value [] => .ok value
  | .holds _ (.items _ :: _) => .error (.atEnd .listEnds)
  | .holds _ (.member _ _ :: _) => .error (.atEnd .objectEnds)

def State.run (state : State) : List Lexeme → Except Fault Json
  | [] => state.finish
  | lexeme :: rest =>
    match state.step lexeme with
    | .error fault => .error fault
    | .ok next => next.run rest

def read (text : String) : Except SyntaxError Json :=
  match (State.wantsValue []).run (lexemes text.toList) with
  | .ok value => .ok value
  | .error fault => .error (fault.inText text.toList)

end Fixture.Json
