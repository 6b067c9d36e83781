import Testbed.Text.ShapeData
import Testbed.Text.Table

/-!
# Quoted text for messages

Text in double quotes, as messages show a value: quotes and backslashes get a backslash, the
common controls their letter, and every other character without a shape of its own its code point
in braces.
-/

namespace Testbed.Text.Quoted

/-- Whether a character is written by its code point. -/
def isShapeless (c : Char) : Bool :=
  c.toNat < 0x20 || c.toNat == 0x7F || (0x80 ≤ c.toNat && inRanges shapelessRanges c.toNat)

def hex (n : Nat) : List Char := Nat.toDigits 16 n

def escape (c : Char) : List Char :=
  if c = '"' then ['\\', '"']
  else if c = '\\' then ['\\', '\\']
  else if c = '\n' then ['\\', 'n']
  else if c = '\r' then ['\\', 'r']
  else if c = '\t' then ['\\', 't']
  else if c.toNat = 0 then ['\\', '0']
  else if isShapeless c then '\\' :: 'u' :: '\x7b' :: (hex c.toNat ++ ['\x7d'])
  else [c]

def quote (s : String) : String := String.ofList ('"' :: (s.toList.flatMap escape ++ ['"']))

end Testbed.Text.Quoted
