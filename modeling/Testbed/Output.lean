import Testbed.Log
import Testbed.Text.Lines

/-!
# Output of a finished script

The lines that a script printed become log entries: blank lines vanish, the others are trimmed,
and two marks tell whether a line reports success or failure.
-/

namespace Testbed.Output

open Log

def passMark : String := "Test Passed"

def failMark : String := "Test Failed"

/-- The mark of success counts before the mark of failure. -/
def statusOf (line : List Char) : Status :=
  if Text.occurs passMark.toList line then .success
  else if Text.occurs failMark.toList line then .error
  else .info

/-- The lines that are not blank, each without the blanks around it. -/
def trimmedLines (s : List Char) : List (List Char) :=
  ((Text.cut '\n' s).map Text.trim).filter (!·.isEmpty)

def entryOf (line : List Char) : Entry := .ofNow (statusOf line) (String.ofList line)

def entries (s : String) : List Entry := (trimmedLines s.toList).map entryOf

end Testbed.Output
