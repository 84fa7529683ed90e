import Fixture.Json.Number
import Fixture.Json.Quoted

/-!
# Lexemes of JSON

A text is a sequence of lexemes with blanks between them: brackets, braces, commas, colons,
strings and scalars. A lexeme that cannot be finished, or a character that begins none, is
the last one of its sequence. Whether it is wrong at the place where it stands is for the
reader to say, so each lexeme keeps the text that was unread at its start.
-/

namespace Fixture.Json

/-- A lexeme. Strings and scalars may turn out to be broken. -/
inductive Token where
  | openArray
  | closeArray
  | openObject
  | closeObject
  | comma
  | colon
  | string (found : Except Fault String)
  | scalar (found : Except Fault Json)
  | stray

/-- A lexeme and the text that begins with it. -/
structure Lexeme where
  token : Token
  text : List Char

def isSpace (c : Char) : Bool :=
  c = ' ' || c = '\t' || c = '\n' || c = '\r'

def scanWord : List Char → List Char → Except Fault (List Char)
  | [], cs => .ok cs
  | _ :: _, [] => .error (.atEnd .valueEnds)
  | w :: word, c :: cs =>
    if c = w then scanWord word cs else .error (.at .wordExpected (c :: cs))

def wordToken (value : Json) (word cs : List Char) : Token × List Char :=
  match scanWord word cs with
  | .ok rest => (.scalar (.ok value), rest)
  | .error fault => (.scalar (.error fault), [])

def stringToken (cs : List Char) : Token × List Char :=
  match scanQuoted cs with
  | .ok (found, rest) => (.string (.ok (String.ofList found)), rest)
  | .error fault => (.string (.error fault), [])

def numberToken (cs : List Char) : Token × List Char :=
  match scanNumber cs with
  | .ok (value, rest) => (.scalar (.ok value), rest)
  | .error fault => (.scalar (.error fault), [])

def mark? (c : Char) : Option Token :=
  if c = '[' then some .openArray
  else if c = ']' then some .closeArray
  else if c = '{' then some .openObject
  else if c = '}' then some .closeObject
  else if c = ',' then some .comma
  else if c = ':' then some .colon
  else none

def word? (c : Char) : Option (Json × List Char) :=
  if c = 'n' then some (.null, ['u', 'l', 'l'])
  else if c = 't' then some (.bool true, ['r', 'u', 'e'])
  else if c = 'f' then some (.bool false, ['a', 'l', 's', 'e'])
  else none

/-- The lexeme that a text begins with and the text after it. -/
def scanToken (c : Char) (cs : List Char) : Token × List Char :=
  match mark? c with
  | some token => (token, cs)
  | none =>
    match word? c with
    | some (value, word) => wordToken value word cs
    | none =>
      if c = '"' then stringToken cs
      else if c = '-' || c.isDigit then numberToken (c :: cs)
      else (.stray, [])

theorem length_le_of_scanWord {word cs rest : List Char}
    (h : scanWord word cs = .ok rest) : rest.length ≤ cs.length := by
  induction word generalizing cs with
  | nil => simp_all [scanWord]
  | cons w word ih =>
    cases cs with
    | nil => exact nomatch h
    | cons c cs =>
      simp only [scanWord] at h
      split at h
      · exact Nat.le_succ_of_le (ih h)
      · exact nomatch h

theorem length_wordToken_le (value : Json) (word cs : List Char) :
    (wordToken value word cs).2.length ≤ cs.length := by
  unfold wordToken
  split
  · exact length_le_of_scanWord ‹_›
  · exact Nat.zero_le _

theorem length_stringToken_le (cs : List Char) :
    (stringToken cs).2.length ≤ cs.length := by
  unfold stringToken
  split
  · exact Nat.le_of_lt (length_lt_of_scanQuoted ‹_›)
  · exact Nat.zero_le _

theorem length_numberToken_le (c : Char) (cs : List Char) :
    (numberToken (c :: cs)).2.length ≤ cs.length := by
  unfold numberToken
  split
  · exact Nat.le_of_lt_succ (length_lt_of_scanNumber ‹scanNumber (c :: cs) = _›)
  · exact Nat.zero_le _

theorem length_scanToken_le (c : Char) (cs : List Char) :
    (scanToken c cs).2.length ≤ cs.length := by
  unfold scanToken
  split
  · exact Nat.le_refl _
  · split
    · exact length_wordToken_le _ _ _
    · split
      · exact length_stringToken_le _
      · split
        · exact length_numberToken_le _ _
        · exact Nat.zero_le _

def lexemes (text : List Char) : List Lexeme :=
  match _h : text.dropWhile isSpace with
  | [] => []
  | c :: cs =>
    let found := scanToken c cs
    ⟨found.1, c :: cs⟩ :: lexemes found.2
termination_by text.length
decreasing_by
  have hl := length_scanToken_le c cs
  have hd := (List.dropWhile_sublist isSpace (l := text)).length_le
  rw [_h, List.length_cons] at hd
  omega

end Fixture.Json
