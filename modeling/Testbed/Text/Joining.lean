import Testbed.Text.Composed
import Testbed.Text.JoiningData

/-!
# Joiners inside words

The zero-width joiner and non-joiner have no shape. They belong where they change how their
neighbours are drawn: after the mark that takes a consonant's vowel away, and for the non-joiner
also between two letters that would join.
-/

namespace Testbed.Text

def Joining.of (n : Nat) : Joining := (rangeValue? joiningRanges n).getD .neither

/-- Whether the nearest character that joining does not pass over joins on the given side. -/
def joinsNext (side : Joining) (s : List Char) : Bool :=
  match (s.map fun c => Joining.of c.toNat).dropWhile (· == .transparent) with
  | [] => false
  | j :: _ => j == side || j == .both

/-- Whether a joiner belongs after `before`, the nearest character first, and before `after`. -/
def joinerFits (c : Char) (before after : List Char) : Bool :=
  match before with
  | [] => false
  | p :: _ =>
    combiningClass p.toNat == 9 ||
      (c.toNat == 0x200C && joinsNext .left before && joinsNext .right after)

/-- Whether every joiner of the text that follows `before` belongs where it stands. -/
def joinersFit (before : List Char) : List Char → Bool
  | [] => true
  | c :: r =>
    (c.toNat != 0x200C && c.toNat != 0x200D || joinerFits c before r) && joinersFit (c :: before) r

end Testbed.Text
