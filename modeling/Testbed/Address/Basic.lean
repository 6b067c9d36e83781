import Testbed.Text.Percent
import Testbed.Text.Lines

/-!
# Web addresses

The parts of an absolute address and its text. A scheme is special when addresses of that scheme
always have a host and a path; these schemes have a default port, which is never written.
-/

namespace Testbed

inductive Host where
  | name (s : String)
  | ipv4 (n : Nat)
  /-- Eight numbers of sixteen bits. -/
  | ipv6 (pieces : List Nat)
  deriving Repr, DecidableEq

/-- Where on the host: segments that a slash precedes, or a text without structure. -/
inductive Path where
  | segments (ss : List String)
  | opaqueText (s : String)
  deriving Repr, DecidableEq

/-- An absolute address. Texts are in their encoded form. -/
structure Address where
  scheme : String
  username : String
  password : String
  /-- `none` when the address names no authority; the empty name is an authority without host. -/
  host : Option Host
  /-- `none` for the default port of the scheme. -/
  port : Option Nat
  path : Path
  query : Option String
  fragment : Option String
  deriving Repr, DecidableEq

namespace Address

inductive Flaw where
  | relativeWithoutBase
  | relativeToOpaque
  | emptyHost
  | invalidPort
  | invalidIpv4
  | invalidIpv6
  | invalidName
  | invalidCharacter
  deriving Repr, DecidableEq

def Flaw.message : Flaw → String
  | .relativeWithoutBase => "relative URL without a base"
  | .relativeToOpaque => "relative URL with a cannot-be-a-base base"
  | .emptyHost => "empty host"
  | .invalidPort => "invalid port number"
  | .invalidIpv4 => "invalid IPv4 address"
  | .invalidIpv6 => "invalid IPv6 address"
  | .invalidName => "invalid international domain name"
  | .invalidCharacter => "invalid domain character"

def defaultPort (scheme : String) : Option Nat :=
  if scheme = "http" ∨ scheme = "ws" then some 80
  else if scheme = "https" ∨ scheme = "wss" then some 443
  else if scheme = "ftp" then some 21
  else none

def isSpecialScheme (scheme : String) : Bool := (defaultPort scheme).isSome || scheme == "file"

def isSpecial (a : Address) : Bool := isSpecialScheme a.scheme

/-- A port as it is kept: not at all if the scheme implies it. -/
def keptPort (scheme : String) (port : Option Nat) : Option Nat :=
  if port = defaultPort scheme then none else port

def hasHost (a : Address) : Bool :=
  match a.host with
  | none => false
  | some (.name s) => !s.isEmpty
  | some _ => true

end Address

namespace Host

def dotted (n : Nat) : String :=
  s!"{n / Nat.pow 2 24}.{n / Nat.pow 2 16 % 256}.{n / Nat.pow 2 8 % 256}.{n % 256}"

def leadingZeros (ps : List Nat) : Nat := (ps.takeWhile (· == 0)).length

/-- Start and length of the first longest run of zeros, from position `i` on. -/
def longestZeros : Nat → List Nat → Nat × Nat
  | _, [] => (0, 0)
  | i, p :: r =>
    let here := leadingZeros (p :: r)
    let (start, length) := longestZeros (i + 1) r
    if length ≤ here ∧ 0 < here then (i, here) else (start, length)

def hex (n : Nat) : String := String.ofList (Nat.toDigits 16 n)

/-- Eight numbers in hexadecimal; a run of two or more zeros is left out. -/
def colons (ps : List Nat) : String :=
  let (start, length) := longestZeros 0 ps
  let join (qs : List Nat) : String := ":".intercalate (qs.map hex)
  if length < 2 then join ps
  else join (ps.take start) ++ "::" ++ join (ps.drop (start + length))

def text : Host → String
  | .name s => s
  | .ipv4 n => dotted n
  | .ipv6 ps => "[" ++ colons ps ++ "]"

end Host

namespace Path

def text : Path → String
  | .segments ss => String.join (ss.map ("/" ++ ·))
  | .opaqueText s => s

end Path

namespace Address

/-- User name and password with the sign that ends them. -/
def credentials (a : Address) : String :=
  if a.username.isEmpty && a.password.isEmpty then ""
  else a.username ++ (if a.password.isEmpty then "" else ":" ++ a.password) ++ "@"

def authority (a : Address) (h : Host) : String :=
  h.text ++ (match a.port with | some p => s!":{p}" | none => "")

/-- Path, query and fragment. A path that could be taken for an authority is guarded by a dot. -/
def text (a : Address) : String :=
  let start := match a.host with
    | some h => "//" ++ a.credentials ++ a.authority h
    | none => if "//".isPrefixOf a.path.text then "/." else ""
  let query := match a.query with | some q => "?" ++ q | none => ""
  let fragment := match a.fragment with | some f => "#" ++ f | none => ""
  a.scheme ++ ":" ++ start ++ a.path.text ++ query ++ fragment

def target (a : Address) : String :=
  a.path.text ++ (match a.query with | some q => "?" ++ q | none => "")

end Address

end Testbed
