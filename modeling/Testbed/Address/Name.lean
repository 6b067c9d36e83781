import Testbed.Address.NameData
import Testbed.Address.Punycode
import Testbed.Text.Direction
import Testbed.Text.Joining
import Testbed.Text.Lower

/-!
# Names of hosts

A name is brought to its usual form, character by character, and composed; its labels are then
checked and written in ASCII. A label that comes encoded must stand for a label in usual form, and
a name with characters that run from right to left must have labels that run one way.
-/

namespace Testbed.Address.Name

def isForbidden (c : Char) : Bool :=
  c.toNat ≤ 0x20 || c.toNat == 0x7F || "#/:<>?@[\\]^|%".toList.contains c

def isAscii (c : Char) : Bool := c.toNat < 0x80

def isCherokeeCapital (c : Char) : Bool := 0x13A0 ≤ c.toNat && c.toNat ≤ 0x13F5

/-- What a character gives way to, apart from its lower case and its canonical decomposition. -/
def replacement? (n : Nat) : Option (List Nat) :=
  let run? := replacedRunRows.findSome? fun
    | [a, b, t] => if a ≤ n ∧ n ≤ b then some [t + (n - a)] else none
    | _ => none
  run? <|> Text.Table.find? spelledOutRows n

/-- A character in its usual form, up to composition; none if no name may hold it. -/
def usualForm? (c : Char) : Option (List Char) :=
  if isAscii c then some [c.toLower]
  else if Text.inRanges ignoredRanges c.toNat then some []
  else match replacement? c.toNat with
    | some form => some (form.map Char.ofNat)
    | none =>
      if Text.inRanges refusedRanges c.toNat then none
      else if isCherokeeCapital c then some [c]
      else some (Text.lowerChar c)

def usual? (s : List Char) : Option (List Char) :=
  if s.all isAscii then some (s.map Char.toLower)
  else (s.mapM usualForm?).map fun forms => Text.composed forms.flatten

def labelMark : List Char := ['x', 'n', '-', '-']

def longestLabel : Nat := 1000

def longestEncoding : Nat := 2000

/-- Whether a label in its usual form may stand in a name: it does not begin with a mark, and its
joiners belong where they stand. -/
def isSound (label : List Char) : Bool :=
  !(label.take 1).any (fun c => Text.inRanges Text.markRanges c.toNat) &&
    Text.joinersFit [] label && label.length ≤ longestLabel

/-- A label as it is shown and as it is written in ASCII. -/
structure Label where
  shown : List Char
  ascii : List Char
  deriving Repr, DecidableEq

def decodedLabel? (encoding : List Char) : Option (List Char) :=
  if encoding.getLast? = some '-' ∨ longestEncoding < encoding.length then none
  else match Punycode.decode encoding with
    | none => none
    | some [] => none
    | some label => if usual? label = some label ∧ isSound label then some label else none

def readLabel? (label : List Char) : Option Label :=
  if labelMark.isPrefixOf label then
    if label.all isAscii then
      (decodedLabel? (label.drop labelMark.length)).map fun shown => ⟨shown, label⟩
    else none
  else if label.all isAscii then some ⟨label, label⟩
  else if isSound label then some ⟨label, labelMark ++ Punycode.encode label⟩
  else none

/-- Whether every label runs one way, if some character makes that matter; in ASCII none does. -/
def runsOneWay (labels : List Label) : Bool :=
  let words := labels.map fun l => l.shown.map Text.Direction.of
  labels.all (·.shown.all isAscii) || !words.any (·.any Text.Direction.isMixed) ||
    words.all Text.Direction.runOneWay

def ascii? (s : List Char) : Option (List Char) := do
  let labels ← (Text.cut '.' (← usual? s)).mapM readLabel?
  let ascii := ['.'].intercalate (labels.map (·.ascii))
  if runsOneWay labels && !ascii.any isForbidden then some ascii else none

end Testbed.Address.Name
