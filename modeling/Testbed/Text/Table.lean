import Testbed.Text.Lines

/-!
# Tables of characters

Properties of characters are kept as ranges of code points, and longer tables as text: rows of
hexadecimal numbers with spaces between the numbers and semicolons between the rows; line breaks
do not count.
-/

namespace Testbed.Text

def inRanges (ranges : List (Nat × Nat)) (n : Nat) : Bool :=
  ranges.any fun (a, b) => a ≤ n && n ≤ b

def rangeValue? {α : Type} (ranges : List (Nat × Nat × α)) (n : Nat) : Option α :=
  ranges.findSome? fun (a, b, v) => if a ≤ n ∧ n ≤ b then some v else none

namespace Table

def digit (c : Char) : Nat := if c.isDigit then c.toNat - 0x30 else c.toNat - 0x37

def number (s : List Char) : Nat := s.foldl (fun n c => n * 16 + digit c) 0

def rows (s : String) : List (List Nat) :=
  (cut ';' (s.toList.filter (· ≠ '\n'))).map fun row =>
    ((cut ' ' row).filter (!·.isEmpty)).map number

/-- What stands after the number in the first row that begins with it. -/
def find? (rows : List (List Nat)) (n : Nat) : Option (List Nat) :=
  rows.findSome? fun
    | m :: r => if m = n then some r else none
    | [] => none

end Table

end Testbed.Text
