import Testbed.Address.Basic
import Testbed.Address.Name
import Testbed.Text.Percent

/-!
# Reading hosts

A host is an IPv6 address in brackets, an IPv4 address in any of its numeric spellings, or a name.
Names are decoded, brought to their usual form, and written in ASCII.
-/

namespace Testbed.Host

open Address (Flaw)

def isForbiddenOpaque (c : Char) : Bool :=
  c.toNat == 0 || "\t\n\r #/:<>?@[\\]^|".toList.contains c

def natOfDigits (base : Nat) (s : List Char) : Option Nat :=
  s.foldlM (fun n c => do
    let d ← Text.Percent.hexValue? c
    if d < base then some (n * base + d) else none) 0

/-- A part of an IPv4 address: `0x` announces hexadecimal, a leading zero octal. -/
def ipv4Part? (s : List Char) : Option Nat :=
  match s with
  | [] => none
  | '0' :: 'x' :: r => natOfDigits 16 r
  | '0' :: 'X' :: r => natOfDigits 16 r
  | '0' :: c :: r => natOfDigits 8 (c :: r)
  | s => natOfDigits 10 s

/-- The parts between the dots, without a last empty one. -/
def dotParts (s : List Char) : List (List Char) :=
  let parts := Text.cut '.' s
  if parts.getLast? = some [] then parts.dropLast else parts

/-- Whether a name must be read as an IPv4 address: its last part is a number. -/
def endsInNumber (s : List Char) : Bool :=
  let last? :=
    let parts := Text.cut '.' s
    match parts.reverse with
    | [] :: p :: _ => some p
    | [[]] => none
    | p :: _ => some p
    | [] => none
  match last? with
  | none => false
  | some last => (!last.isEmpty && last.all Char.isDigit) || (ipv4Part? last).isSome

/-- The last part fills the bytes that the parts before it leave. -/
def ipv4OfParts (numbers : List Nat) : Option Nat :=
  match numbers.reverse with
  | [] => none
  | last :: before =>
    let k := before.length
    if Nat.pow 256 (4 - k) ≤ last ∨ before.any (255 < ·) then none
    else some (before.reverse.zipIdx.foldl (fun sum (n, i) => sum + n * Nat.pow 256 (3 - i)) last)

def readIpv4 (s : List Char) : Except Flaw Host :=
  let parts := dotParts s
  match parts.mapM ipv4Part? with
  | none => .error .invalidIpv4
  | some numbers =>
    if 4 < parts.length then .error .invalidIpv4
    else match ipv4OfParts numbers with
      | none => .error .invalidIpv4
      | some n => .ok (.ipv4 n)

/-- Four decimal numbers without leading zeros as two pieces of sixteen bits. -/
def embeddedIpv4? (s : List Char) : Option (List Nat) :=
  let part (p : List Char) : Option Nat := do
    let n ← natOfDigits 10 p
    if p.isEmpty || (p.head? == some '0' && 1 < p.length) || 255 < n then none else some n
  match (Text.cut '.' s).mapM part with
  | some [a, b, c, d] => some [a * 256 + b, c * 256 + d]
  | _ => none

def ipv6Piece? (s : List Char) : Option Nat :=
  if s.isEmpty || 4 < s.length then none else natOfDigits 16 s

/-- The pieces between single colons; the last one may be an IPv4 address if `mayEmbed`. -/
def ipv6Pieces? (mayEmbed : Bool) (s : List Char) : Option (List Nat) :=
  if s.isEmpty then some []
  else
    let groups := Text.cut ':' s
    match groups.getLast? with
    | none => none
    | some last =>
      if mayEmbed && last.contains '.' then do
        return (← groups.dropLast.mapM ipv6Piece?) ++ (← embeddedIpv4? last)
      else groups.mapM ipv6Piece?

/-- The text around the first double colon, if there is one. -/
def splitDoubleColon : List Char → Option (List Char × List Char)
  | ':' :: ':' :: r => some ([], r)
  | c :: r => (splitDoubleColon r).map fun (a, b) => (c :: a, b)
  | [] => none

def readIpv6 (s : List Char) : Except Flaw Host :=
  let pieces? : Option (List Nat) :=
    match splitDoubleColon s with
    | none => do
      let ps ← ipv6Pieces? true s
      if ps.length = 8 then some ps else none
    | some (left, right) => do
      let ps ← ipv6Pieces? false left
      let qs ← ipv6Pieces? true right
      if ps.length + qs.length ≤ 7 then
        some (ps ++ List.replicate (8 - ps.length - qs.length) 0 ++ qs)
      else none
  match pieces? with
  | some ps => .ok (.ipv6 ps)
  | none => .error .invalidIpv6

def bracketed? (s : List Char) : Option (Except Flaw Host) :=
  match s with
  | '[' :: r => some (if r.getLast? = some ']' then readIpv6 r.dropLast else .error .invalidIpv6)
  | _ => none

def read (s : List Char) : Except Flaw Host :=
  match bracketed? s with
  | some r => r
  | none =>
    match Text.Utf8.decode (Text.Percent.decode s) with
    | .error _ => .error .invalidName
    | .ok decoded =>
      match Address.Name.ascii? decoded with
      | none => .error .invalidName
      | some [] => .error .emptyHost
      | some ascii =>
        if endsInNumber ascii then readIpv4 ascii else .ok (.name (String.ofList ascii))

def isPlain (c : Char) : Bool := 0x20 ≤ c.toNat && c.toNat < 0x7F

def readOpaque (s : List Char) : Except Flaw Host :=
  match bracketed? s with
  | some r => r
  | none =>
    if s.any isForbiddenOpaque then .error .invalidCharacter
    else .ok (.name (String.ofList (Text.Percent.encode isPlain s)))

end Testbed.Host
