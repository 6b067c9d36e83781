import Testbed.Text.DirectionData
import Testbed.Text.Table

/-!
# Words in lines of both directions

A word keeps its characters together in a line of mixed directions if it runs one way: it begins
with a letter, holds no letter of the other direction, and ends in a letter or a number.
-/

namespace Testbed.Text

def Direction.of (c : Char) : Direction := (rangeValue? directionRanges c.toNat).getD .leftToRight

/-- Whether a character makes the order of a line depend on directions. -/
def Direction.isMixed : Direction → Bool
  | .rightToLeft | .arabicNumber => true
  | _ => false

/-- Whether a word of these directions runs one way. Marks at its end do not count, and numbers of
both kinds do not go together from right to left. -/
def Direction.runOneWay (word : List Direction) : Bool :=
  match word with
  | [] => true
  | first :: r =>
    let core := r.reverse.dropWhile (· == .mark)
    let before := core.drop 1
    match first with
    | .leftToRight =>
      [none, some .leftToRight, some .europeanNumber].contains core.head? &&
        before.all [.leftToRight, .europeanNumber, .neutral, .mark].contains
    | .rightToLeft =>
      [none, some .rightToLeft, some .europeanNumber, some .arabicNumber].contains core.head? &&
        before.all [.rightToLeft, .europeanNumber, .arabicNumber, .neutral, .mark].contains &&
        !(core.contains .europeanNumber && core.contains .arabicNumber)
    | _ => false

end Testbed.Text
