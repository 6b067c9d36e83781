/-!
# Names beyond ASCII in ASCII

The bootstring encoding of host names: the ASCII characters of a label, then its other characters
in ascending order, each as the distance from the one before in digits of varying weight.
-/

namespace Testbed.Address.Punycode

/-- Digits 0 to 25 are letters, 26 to 35 decimal digits. -/
def digitChar (d : Nat) : Char :=
  if d < 26 then Char.ofNat (0x61 + d) else Char.ofNat (0x30 + (d - 26))

def digitValue? (c : Char) : Option Nat :=
  let n := c.toNat
  if 0x61 ≤ n ∧ n ≤ 0x7A then some (n - 0x61)
  else if 0x41 ≤ n ∧ n ≤ 0x5A then some (n - 0x41)
  else if 0x30 ≤ n ∧ n ≤ 0x39 then some (n - 0x30 + 26)
  else none

def threshold (k bias : Nat) : Nat :=
  if k ≤ bias then 1 else if bias + 26 ≤ k then 26 else k - bias

theorem threshold_pos (k bias : Nat) : 1 ≤ threshold k bias := by
  unfold threshold
  split
  · omega
  · split <;> omega

/-- Divides by 35 until the distance is small, counting the positions. -/
def damp (delta k : Nat) : Nat × Nat :=
  if 455 < delta then damp (delta / 35) (k + 36) else (delta, k)
termination_by delta
decreasing_by exact Nat.div_lt_self (by omega) (by omega)

def adapt (delta count : Nat) (first : Bool) : Nat :=
  let d := if first then delta / 700 else delta / 2
  let (d, k) := damp (d + d / count) 0
  k + 36 * d / (d + 38)

def encodeDistance (bias k q : Nat) : List Char :=
  let t := threshold k bias
  if q < t then [digitChar q]
  else digitChar (t + (q - t) % (36 - t)) :: encodeDistance bias (k + 36) ((q - t) / (36 - t))
termination_by q
decreasing_by
  have h := threshold_pos k bias
  calc (q - threshold k bias) / (36 - threshold k bias)
      ≤ q - threshold k bias := Nat.div_le_self _ _
    _ < q := by omega

structure Encoder where
  digits : List Char
  delta : Nat
  bias : Nat
  handled : Nat

/-- One character of the label while the code point `m` is being written. -/
def Encoder.visit (basic m : Nat) (e : Encoder) (c : Char) : Encoder :=
  if c.toNat < m then { e with delta := e.delta + 1 }
  else if c.toNat = m then
    { digits := e.digits ++ encodeDistance e.bias 36 e.delta
      delta := 0
      bias := adapt e.delta (e.handled + 1) (e.handled == basic)
      handled := e.handled + 1 }
  else e

/-- Writes the given code points in turn, `n` being the least one not yet passed. -/
def Encoder.run (label : List Char) (basic : Nat) : Encoder → Nat → List Nat → Encoder
  | e, _, [] => e
  | e, n, m :: r =>
    let e := { e with delta := e.delta + (m - n) * (e.handled + 1) }
    let e := label.foldl (Encoder.visit basic m) e
    run label basic { e with delta := e.delta + 1 } (m + 1) r

def insertOnce (x : Nat) : List Nat → List Nat
  | [] => [x]
  | y :: r => if x < y then x :: y :: r else if x = y then y :: r else y :: insertOnce x r

/-- The label in ASCII, without the mark that announces it. -/
def encode (label : List Char) : List Char :=
  let basic := label.filter (·.toNat < 0x80)
  let others := (label.filter (0x80 ≤ ·.toNat)).map Char.toNat
  let start : Encoder := ⟨[], 0, 72, basic.length⟩
  let e := start.run label basic.length 0x80 (others.foldr insertOnce [])
  (if basic.isEmpty then [] else basic ++ ['-']) ++ e.digits

/-- A distance read from digits: the distance and what follows it. Weights stay below `2 ^ 32`. -/
def decodeDistance (bias k weight acc : Nat) : List Char → Option (Nat × List Char)
  | [] => none
  | c :: r => do
    let d ← digitValue? c
    let acc := acc + d * weight
    let t := threshold k bias
    if d < t then some (acc, r)
    else if Nat.pow 2 32 ≤ weight * (36 - t) then none
    else decodeDistance bias (k + 36) (weight * (36 - t)) acc r

theorem decodeDistance_shorter {bias k weight acc : Nat} {s r : List Char} {q : Nat}
    (h : decodeDistance bias k weight acc s = some (q, r)) : r.length < s.length := by
  induction s generalizing k weight acc with
  | nil => simp [decodeDistance] at h
  | cons c t ih =>
    rw [decodeDistance] at h
    cases hd : digitValue? c with
    | none => simp [hd] at h
    | some d =>
      simp only [hd, Option.bind_eq_bind, Option.bind_some] at h
      split at h
      · simp only [Option.some.injEq, Prod.mk.injEq] at h
        simp [← h.2]
      · split at h
        · exact absurd h (by simp)
        · exact Nat.lt_succ_of_lt (ih h)

/-- Puts the encoded characters between those read so far. -/
def decodeLoop (label : List Char) (n i bias : Nat) (s : List Char) : Option (List Char) :=
  if s.isEmpty then some label
  else match h : decodeDistance bias 36 1 0 s with
    | none => none
    | some (q, r) =>
      let count := label.length + 1
      let m := n + (i + q) / count
      let j := (i + q) % count
      if m.isValidChar then
        decodeLoop (label.take j ++ Char.ofNat m :: label.drop j) m (j + 1)
          (adapt q count (i == 0 && n == 0x80)) r
      else none
termination_by s.length
decreasing_by exact decodeDistance_shorter h

def splitLastHyphen (s : List Char) : List Char × List Char :=
  let tail := (s.reverse.takeWhile (· ≠ '-')).reverse
  if tail.length = s.length then ([], s) else (s.take (s.length - tail.length - 1), tail)

/-- The label that ASCII text stands for. A hyphen with nothing before it is no digit. -/
def decode (s : List Char) : Option (List Char) :=
  let (basic, digits) := splitLastHyphen s
  decodeLoop basic 0x80 0 72 (if basic.isEmpty then s else digits)

end Testbed.Address.Punycode
