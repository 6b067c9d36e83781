/-!
# Binary fractions with 53 digits

Magnitudes of the form `mantissa * 2 ^ exponent` with at most 53 binary digits and an exponent
from -1074 to 971. Every operation rounds the exact quotient to the nearest such magnitude, a tie
to the even mantissa, and has no answer when the result lies beyond the largest one.
-/

namespace Testbed

/-- A finite magnitude; the mantissa has its top bit set unless the exponent is the least one. -/
structure Binary64 where
  mantissa : Nat
  exponent : Int
  deriving Repr, DecidableEq

namespace Binary64

def zero : Binary64 := ⟨0, -1074⟩

def isZero (x : Binary64) : Bool := x.mantissa == 0

/-- `num / den` to the nearest natural number, a tie to the even one. -/
def roundDiv (num den : Nat) : Nat :=
  let q := num / den
  let r := num % den
  if 2 * r < den then q
  else if den < 2 * r then q + 1
  else if q % 2 = 0 then q else q + 1

def scale (num den : Nat) (e : Int) : Nat × Nat :=
  match e with
  | .ofNat n => (num, den * Nat.pow 2 n)
  | .negSucc n => (num * Nat.pow 2 (n + 1), den)

/-- The exponent at which the quotient has 53 binary digits before the point, or the least one. -/
def exponentOf (num den : Nat) : Int :=
  let d : Int := (Nat.log2 num : Int) - (Nat.log2 den : Int)
  let (a, b) := scale num den (d - 53)
  let e := if a / b < Nat.pow 2 53 then d - 53 else d - 52
  max e (-1074)

def ofRatio? (num den : Nat) : Option Binary64 :=
  if num = 0 then some zero
  else
    let e := exponentOf num den
    let (a, b) := scale num den e
    let m := roundDiv a b
    let x : Binary64 := if m = Nat.pow 2 53 then ⟨Nat.pow 2 52, e + 1⟩ else ⟨m, e⟩
    if x.exponent ≤ 971 then some x else none

def toRatio (x : Binary64) : Nat × Nat :=
  match x.exponent with
  | .ofNat n => (x.mantissa * Nat.pow 2 n, 1)
  | .negSucc n => (x.mantissa, Nat.pow 2 (n + 1))

def mul? (x y : Binary64) : Option Binary64 :=
  let (a, b) := x.toRatio
  let (c, d) := y.toRatio
  ofRatio? (a * c) (b * d)

def div? (x y : Binary64) : Option Binary64 :=
  let (a, b) := x.toRatio
  let (c, d) := y.toRatio
  ofRatio? (a * d) (b * c)

def tenTo? (k : Nat) : Option Binary64 := ofRatio? (Nat.pow 10 k) 1

/-- Divided `k` times by the same divisor; a zero stays as it is. -/
def divTimes (divisor : Binary64) : Nat → Binary64 → Option Binary64
  | 0, x => some x
  | k + 1, x => if x.isZero then some x else do divTimes divisor k (← x.div? divisor)

/-- `x * 10 ^ (-n)`, by one rounded division for each 308 places begun. -/
def scaleDown (x : Binary64) (n : Nat) : Option Binary64 := do
  let rounds := (n - 1) / 308
  let y ← divTimes (← tenTo? 308) rounds x
  if y.isZero then some y else y.div? (← tenTo? (n - 308 * rounds))

/-- `x * 10 ^ n`, beyond the largest magnitude for any `n` over 308. -/
def scaleUp (x : Binary64) (n : Nat) : Option Binary64 :=
  if n ≤ 308 then do x.mul? (← tenTo? n)
  else if x.isZero then some x
  else none

/-- `significand * 10 ^ exponent`, the significand rounded first. -/
def ofDecimal? (significand : Nat) (exponent : Int) : Option Binary64 := do
  let x ← ofRatio? significand 1
  match exponent with
  | .ofNat n => x.scaleUp n
  | .negSucc n => x.scaleDown (n + 1)

end Binary64

end Testbed
