import Fixture.Text.Unprintable

/-!
# Quoted texts

A text is shown to a reader between quotation marks, so that it can be seen where it begins
and ends and what it is made of. The quotation mark and the backslash have a backslash in
front, tab, line feed, carriage return and the null character have escapes of one letter, and
every other character that does not show stands as its code point in hexadecimal.
-/

namespace Fixture.Text

def showChar (c : Char) : List Char :=
  if c = '"' then ['\\', '"']
  else if c = '\\' then ['\\', '\\']
  else if c = '\t' then ['\\', 't']
  else if c = '\n' then ['\\', 'n']
  else if c = '\r' then ['\\', 'r']
  else if c = '\x00' then ['\\', '0']
  else if isUnprintable c then
    ['\\', 'u', '{'] ++ Nat.toDigits 16 c.toNat ++ ['}']
  else [c]

def quoted (text : String) : String :=
  String.ofList ('"' :: (text.toList.flatMap showChar ++ ['"']))

end Fixture.Text
