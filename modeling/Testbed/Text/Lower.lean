import Testbed.Text.CaseData
import Testbed.Text.Table

/-!
# Lower case

Lower-casing of whole texts. Characters move one by one by the case map, with two exceptions: the
dotted capital I becomes two characters, and a capital sigma that ends a word becomes a final
sigma.
-/

namespace Testbed.Text

/-- Where a run moves the code point, if it covers it. -/
def CaseRun.target? (r : CaseRun) (n : Nat) : Option Nat :=
  if r.first ≤ n ∧ n ≤ r.last ∧ (n - r.first) % r.step = 0 then some (n + r.shift).toNat else none

def isCased (c : Char) : Bool := inRanges casedRanges c.toNat

def isTransparent (c : Char) : Bool := inRanges transparentRanges c.toNat

/-- The lower-case form of one character, apart from its neighbours. -/
def lowerChar (c : Char) : List Char :=
  if c.toNat = 0x130 then ['i', Char.ofNat 0x307]
  else if c.toNat < 0x80 then [c.toLower]
  else [((caseRuns.findSome? (·.target? c.toNat)).map Char.ofNat).getD c]

/-- Whether the nearest character that is not transparent has a case. -/
def nextIsCased (s : List Char) : Bool :=
  match s.dropWhile isTransparent with
  | [] => false
  | c :: _ => isCased c

/-- A sigma is final when a cased character stands before it in the word and none after it. -/
def lowerFrom (before : List Char) : List Char → List Char
  | [] => []
  | c :: r =>
    let form :=
      if c.toNat = 0x3A3 then
        [if nextIsCased before && !nextIsCased r then Char.ofNat 0x3C2 else Char.ofNat 0x3C3]
      else lowerChar c
    form ++ lowerFrom (c :: before) r

def lower (s : String) : String := String.ofList (lowerFrom [] s.toList)

def asciiLower (s : String) : String := String.ofList (s.toList.map Char.toLower)

def asciiUpper (s : String) : String := String.ofList (s.toList.map Char.toUpper)

end Testbed.Text
