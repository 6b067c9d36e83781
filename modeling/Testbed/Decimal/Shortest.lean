import Testbed.Decimal.Binary64

/-!
# Shortest decimal text

The shortest decimal that reads back as a given magnitude is a point of the coarsest power-of-ten
grid that has a point within the magnitude's rounding interval; of two such points the nearer one.
-/

namespace Testbed.Binary64

/-- The rounding interval and its centre, in units of a quarter of the last binary place. -/
structure Interval where
  low : Nat
  centre : Nat
  high : Nat
  /-- Whether the two ends read back as the magnitude. -/
  closed : Bool

def interval (x : Binary64) : Interval where
  low :=
    if x.mantissa = Nat.pow 2 52 ∧ -1074 < x.exponent then 4 * x.mantissa - 1
    else 4 * x.mantissa - 2
  centre := 4 * x.mantissa
  high := 4 * x.mantissa + 2
  closed := x.mantissa % 2 == 0

def Interval.holds (i : Interval) (unit point : Nat) : Bool :=
  if i.closed then i.low * unit ≤ point && point ≤ i.high * unit
  else i.low * unit < point && point < i.high * unit

/-- The multiple of `step` nearest to the centre that lies in the interval, as a positive count of
steps; lengths are counted in `1 / unit` of the interval's unit. -/
def Interval.nearest? (i : Interval) (unit step : Nat) : Option Nat :=
  let c := i.centre * unit
  let d := c / step
  let below := d ≠ 0 && i.holds unit (d * step)
  let above := i.holds unit ((d + 1) * step)
  if below && above then
    let gapBelow := c - d * step
    let gapAbove := (d + 1) * step - c
    if gapBelow < gapAbove then some d
    else if gapAbove < gapBelow then some (d + 1)
    else if d % 2 = 0 then some d else some (d + 1)
  else if below then some d
  else if above then some (d + 1)
  else none

/-- Unit and step for the grid of multiples of `10 ^ k`, where the interval counts quarters of
`2 ^ e`. -/
def gridScale (e k : Int) : Nat × Nat :=
  let (u, s) : Nat × Nat := match e - 2 with
    | .ofNat n => (Nat.pow 2 n, 1)
    | .negSucc n => (1, Nat.pow 2 (n + 1))
  match k with
  | .ofNat n => (u, s * Nat.pow 10 n)
  | .negSucc n => (u * Nat.pow 10 (n + 1), s)

/-- The first hit on the grids `10 ^ k`, `10 ^ (k - 1)`, …, as digits and exponent. -/
def search (i : Interval) (e : Int) : Nat → Int → Nat × Int
  | 0, k => (0, k)
  | fuel + 1, k =>
    let (unit, step) := gridScale e k
    match i.nearest? unit step with
    | some d => (d, k)
    | none => search i e fuel (k - 1)

/-- Digits and exponent of the shortest decimal that reads back as the magnitude. -/
def shortest (x : Binary64) : Nat × Int :=
  if x.isZero then (0, 0) else search x.interval x.exponent 640 310

def pointAfter (n : Nat) (digits : List Char) : List Char :=
  digits.take n ++ '.' :: digits.drop n

/-- The text of a magnitude: positional from `0.00001` to below `10 ^ 16`, with at least one digit
after the point, and otherwise with a signed exponent. -/
def text (x : Binary64) : List Char :=
  let (d, k) := x.shortest
  let digits := Nat.toDigits 10 d
  let e : Int := k + digits.length - 1
  if e < -5 ∨ 16 ≤ e then
    let head := if digits.length = 1 then digits else pointAfter 1 digits
    let sign := if e < 0 then '-' else '+'
    head ++ 'e' :: sign :: Nat.toDigits 10 e.natAbs
  else if 0 ≤ k then digits ++ List.replicate k.toNat '0' ++ ['.', '0']
  else if 0 ≤ e then pointAfter (e.toNat + 1) digits
  else '0' :: '.' :: (List.replicate (e.natAbs - 1) '0' ++ digits)

end Testbed.Binary64
