import Testbed.Text.CombiningData
import Testbed.Text.CompositionData

/-!
# Composed text

Text in its composed canonical form. Every character is taken apart, the marks on one base are put
in the order of their classes, and what forms one character is put together again. Hangul syllables
are computed from their letters, all other characters are looked up.
-/

namespace Testbed.Text

/-- The class that places a mark among the marks on one base, zero for any other character. -/
def combiningClass (n : Nat) : Nat :=
  if n < 0x300 then 0 else (rangeValue? combiningClassRanges n).getD 0

/-- The letters of a Hangul syllable: a leading one, a vowel, and perhaps a trailing one. -/
def syllableLetters? (n : Nat) : Option (List Nat) :=
  if 0xAC00 ≤ n ∧ n ≤ 0xD7A3 then
    let i := n - 0xAC00
    let trailing := if i % 28 = 0 then [] else [0x11A7 + i % 28]
    some ([0x1100 + i / 588, 0x1161 + i % 588 / 28] ++ trailing)
  else none

/-- The Hangul syllable of a leading letter and a vowel, or of such a syllable and a trailing
letter. -/
def syllable? (a b : Nat) : Option Nat :=
  if 0x1100 ≤ a ∧ a ≤ 0x1112 ∧ 0x1161 ≤ b ∧ b ≤ 0x1175 then
    some (0xAC00 + (a - 0x1100) * 588 + (b - 0x1161) * 28)
  else if 0xAC00 ≤ a ∧ a ≤ 0xD7A3 ∧ (a - 0xAC00) % 28 = 0 ∧ 0x11A8 ≤ b ∧ b ≤ 0x11C2 then
    some (a + (b - 0x11A7))
  else none

def parts (n : Nat) : List Nat :=
  if n < 0xC0 then [n]
  else match syllableLetters? n with
    | some letters => letters
    | none => (Table.find? compositeRows n <|> Table.find? replacedRows n).getD [n]

def together? (a b : Nat) : Option Nat :=
  if b < 0x300 then none
  else match syllable? a b with
    | some c => some c
    | none =>
      let whole := parts a ++ [b]
      compositeRows.findSome? fun
        | c :: r => if r = whole then some c else none
        | [] => none

/-- Puts a character before text whose marks are in order; marks of lower classes go first. -/
def placeMark (n : Nat) : List Nat → List Nat
  | [] => [n]
  | m :: r =>
    if 0 < combiningClass m ∧ combiningClass m < combiningClass n then m :: placeMark n r
    else n :: m :: r

def decomposed (s : List Nat) : List Nat := (s.flatMap parts).foldr placeMark []

/-- Joins what follows to the base `a`. `marks` are the marks after it that stay, the last one
first; a mark joins only if those before it have lower classes. -/
def joinFrom (a : Nat) (marks : List Nat) : List Nat → List Nat
  | [] => a :: marks.reverse
  | b :: r =>
    let reaches := match marks with
      | [] => true
      | m :: _ => combiningClass m < combiningClass b
    match if reaches then together? a b else none with
    | some c => joinFrom c marks r
    | none =>
      if combiningClass b = 0 then a :: (marks.reverse ++ joinFrom b [] r)
      else joinFrom a (b :: marks) r

def composed (s : List Char) : List Char :=
  match decomposed (s.map Char.toNat) with
  | [] => []
  | a :: r => (joinFrom a [] r).map Char.ofNat

end Testbed.Text
