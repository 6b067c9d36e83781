import Testbed.Text.Utf8

/-!
# Percent encoding

A byte as `%` and two upper-case hexadecimal digits. Which characters are kept as they stand is
for each user to say; all others are written byte by byte.
-/

namespace Testbed.Text.Percent

def hexDigit (n : Nat) : Char := Char.ofNat (if n < 10 then 0x30 + n else 0x41 + (n - 10))

def hexValue? (c : Char) : Option Nat :=
  let n := c.toNat
  if 0x30 ≤ n ∧ n ≤ 0x39 then some (n - 0x30)
  else if 0x41 ≤ n ∧ n ≤ 0x46 then some (n - 0x41 + 10)
  else if 0x61 ≤ n ∧ n ≤ 0x66 then some (n - 0x61 + 10)
  else none

def encodeByte (b : UInt8) : List Char := ['%', hexDigit (b.toNat / 16), hexDigit (b.toNat % 16)]

/-- A character as it stands if it is kept, otherwise its bytes. -/
def encodeChar (keep : Char → Bool) (c : Char) : List Char :=
  if keep c then [c] else (Utf8.encodeChar c).flatMap encodeByte

def encode (keep : Char → Bool) (s : List Char) : List Char := s.flatMap (encodeChar keep)

/-- The bytes that the text stands for; a `%` without two digits stands for itself. -/
def decode : List Char → List UInt8
  | '%' :: a :: b :: r =>
    match hexValue? a, hexValue? b with
    | some x, some y => .ofNat (16 * x + y) :: decode r
    | _, _ => Utf8.encodeChar '%' ++ decode (a :: b :: r)
  | c :: r => Utf8.encodeChar c ++ decode r
  | [] => []

/-- Letters, digits and the four marks that never need encoding. -/
def isUnreserved (c : Char) : Bool :=
  c.isAlphanum || c == '-' || c == '.' || c == '_' || c == '~'

end Testbed.Text.Percent
