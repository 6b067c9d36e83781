import Testbed.Json.Basic
import Testbed.Json.Fault

/-!
# Reading values from a JSON tree

Readers for the kinds of value that messages hold. A reader stops at the first fault in the order
of the text. Brackets may stand 127 deep where values are looked at; what is skipped may be deeper.
-/

namespace Testbed

namespace Numeral

/-- The digits taken into 64 bits while they fit, and how many were left over. -/
def takeDigits (start : Nat) (ds : List Nat) : Nat × Nat × Bool :=
  ds.foldl (fun (s, left, full) d =>
    if full || Nat.pow 2 64 ≤ s * 10 + d then (s, left + 1, true) else (s * 10 + d, left, false))
    (start, 0, false)

def natOfDigits (ds : List Nat) : Nat := ds.foldl (fun n d => n * 10 + d) 0

/-- The magnitude as a binary fraction: as many digits as fit into 64 bits, times a power of ten. -/
def magnitude? (n : Numeral) : Option Binary64 :=
  let (s, left, _) := takeDigits 0 n.whole
  let (s', dropped, _) := takeDigits s n.fraction
  let places : Int := left - (n.fraction.length - dropped : Nat)
  let e : Int := natOfDigits n.exponent
  Binary64.ofDecimal? s' (if n.exponentNegative then places - e else places + e)

def isIntegral (n : Numeral) : Bool := n.fraction.isEmpty && n.exponent.isEmpty

/-- An integer where 64 bits hold it, otherwise a fraction unless it is too large. A negative zero
is a fraction. -/
def value? (n : Numeral) : Option Json.Number :=
  let v := natOfDigits n.whole
  if n.isIntegral && !n.negative && v < Nat.pow 2 64 then some (.integer v)
  else if n.isIntegral && n.negative && 0 < v && v ≤ Nat.pow 2 63 then some (.integer (-v))
  else n.magnitude?.map (.real n.negative)

end Numeral

namespace Json

/-- The depth that no bracket may exceed where values are looked at. -/
def depthLimit : Nat := 127

def readNumber (n : Numeral) : Except Fault Number :=
  match n.value? with
  | some v => .ok v
  | none => .error .grammar

def readString : Option String → Except Fault String
  | some s => .ok s
  | none => .error .grammar

/-- What stands in the text, read as far as it must be to say so. -/
def found : Json → Except Fault Found
  | .null => .ok .null
  | .bool b => .ok (.bool b)
  | .number n => (readNumber n).map .number
  | .string t => (readString t).map .string
  | .array .. => .ok .array
  | .object .. => .ok .object
  | .broken => .error .grammar

def mismatch {α : Type} (wanted : Wanted) (j : Json) : Except Fault α := do
  .error (.mismatch (← j.found) wanted)

def optionalString : Json → Except Fault (Option String)
  | .null => .ok none
  | .string t => (readString t).map some
  | j => mismatch .string j

def ignored (j : Json) : Except Fault Unit := if j.intact then .ok () else .error .grammar

def closing (closed : Bool) : Except Fault Unit := if closed then .ok () else .error .grammar

def entering (depth : Nat) : Except Fault Unit :=
  if depth ≤ depthLimit then .ok () else .error .grammar

def foldMembers {α : Type} (f : α → String → Json → Except Fault α) (closed : Bool) :
    α → List (Option String × Json) → Except Fault α
  | a, [] => do closing closed; return a
  | a, (key, j) :: r => do
    let key ← readString key
    let a ← f a key j
    foldMembers f closed a r

/-- The next item of an array that holds fields by position, with what stays behind it. -/
def nextItem (closed : Bool) : List Json → Except Fault (Option Json × List Json)
  | [] => do closing closed; return (none, [])
  | j :: r => .ok (some j, r)

/-- The end of such an array: no item may be left. -/
def noMoreItems (closed : Bool) (items : List Json) : Except Fault Unit :=
  closing (closed && items.isEmpty)

/-- The value of a whole text, with nothing after its tree. -/
def readWhole {α : Type} (read : Json → Except Fault α) (text : Json × Bool) : Except Fault α := do
  let a ← read text.1
  closing text.2
  return a

def readText {α : Type} (read : Json → Except Fault α) (s : String) : Except Fault α :=
  readWhole read (ofText s)

/-- Reads bytes, of which only the strings that are looked at need be UTF-8. -/
def readBytes {α : Type} (read : Json → Except Fault α) (bytes : List UInt8) : Except Fault α :=
  readWhole read (ofBytes bytes)

end Json

end Testbed
