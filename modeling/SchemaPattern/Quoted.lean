import SchemaPattern.CharSet
import SchemaPattern.Numeral
import SchemaPattern.Unicode.Invisible

/-!
# Characters in messages

How a character is written between quotes: the quotes, the backslash and four controls after a
backslash, a character without a form of its own by its number, every other as itself.
-/

namespace SchemaPattern

def invisibleChars : CharSet := .ofSpans Unicode.invisible

def quoted (c : Char) : List Char :=
  if c = '\x00' then ['\\', '0']
  else if c = '\t' then ['\\', 't']
  else if c = '\n' then ['\\', 'n']
  else if c = '\r' then ['\\', 'r']
  else if c = '\'' ∨ c = '"' ∨ c = '\\' then ['\\', c]
  else if invisibleChars.contains c then
    '\\' :: 'u' :: '\x7b' :: (Numeral.hex c.toNat).map Char.toLower ++ ['\x7d']
  else [c]

def quotedText (c : Char) : List Char := '\'' :: quoted c ++ ['\'']

def inQuotes (c : Char) : String := String.ofList (quotedText c)

end SchemaPattern
