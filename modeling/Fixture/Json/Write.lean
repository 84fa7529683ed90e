import Fixture.Decimal.Layout
import Fixture.Json.Basic
import Fixture.Text.Integer

/-!
# Writing JSON

A value is written compactly, with no blank outside its strings, or indented: each item or
member on a line of its own, two spaces further in than what it belongs to, and a space
after the colon; an empty array or object stays in one piece. In a string the quotation
mark, the backslash and the characters below U+0020 are escaped and nothing else is, so that
no line feed of a string ever stands in the text.
-/

namespace Fixture.Json

inductive Layout where
  | compact
  | indented (depth : Nat)
deriving DecidableEq, Repr

def Layout.deeper : Layout → Layout
  | .compact => .compact
  | .indented depth => .indented (depth + 1)

def Layout.gap : Layout → List Char
  | .compact => []
  | .indented depth => '\n' :: List.replicate (2 * depth) ' '

def Layout.colon : Layout → List Char
  | .compact => [':']
  | .indented _ => [':', ' ']

/-- Doubles always have a point or an exponent. The point is put into the number itself for
exponents from -5 to 15, and of two equally near decimals the even one is taken. -/
def realLayout : Decimal.Layout where
  positional := fun exponent => -5 ≤ exponent && exponent < 16
  keepsPoint := true
  tie := .even

def escape (c : Char) : List Char :=
  if c = '"' then ['\\', '"']
  else if c = '\\' then ['\\', '\\']
  else if c = '\x08' then ['\\', 'b']
  else if c = '\x0C' then ['\\', 'f']
  else if c = '\n' then ['\\', 'n']
  else if c = '\r' then ['\\', 'r']
  else if c = '\t' then ['\\', 't']
  else if c < ' ' then
    ['\\', 'u', '0', '0', (c.toNat / 16).digitChar, (c.toNat % 16).digitChar]
  else [c]

def quote (cs : List Char) : List Char :=
  '"' :: (cs.flatMap escape ++ ['"'])

mutual

def write (layout : Layout) : Json → List Char
  | .null => ['n', 'u', 'l', 'l']
  | .bool true => ['t', 'r', 'u', 'e']
  | .bool false => ['f', 'a', 'l', 's', 'e']
  | .int n => Text.decimal n
  | .real x => realLayout.text x
  | .string s => quote s.toList
  | .array [] => ['[', ']']
  | .array (item :: items) =>
    '[' :: (layout.deeper.gap ++ (write layout.deeper item ++
      (writeItems layout.deeper items ++ (layout.gap ++ [']']))))
  | .object [] => ['{', '}']
  | .object ((name, value) :: members) =>
    '{' :: (layout.deeper.gap ++ (quote name.toList ++ (layout.colon ++
      (write layout.deeper value ++
        (writeMembers layout.deeper members ++ (layout.gap ++ ['}']))))))

def writeItems (layout : Layout) : List Json → List Char
  | [] => []
  | item :: items => ',' :: (layout.gap ++ (write layout item ++ writeItems layout items))

def writeMembers (layout : Layout) : List (String × Json) → List Char
  | [] => []
  | (name, value) :: members =>
    ',' :: (layout.gap ++ (quote name.toList ++ (layout.colon ++
      (write layout value ++ writeMembers layout members))))

end

def compactText (json : Json) : String :=
  String.ofList (write .compact json)

def indentedText (json : Json) : String :=
  String.ofList (write (.indented 0) json)

end Fixture.Json
