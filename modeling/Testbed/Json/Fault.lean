import Testbed.Decimal.Shortest
import Testbed.Text.Quoted
import Testbed.Text.Utf8

/-!
# Faults of a JSON text

What can be wrong with a JSON text for a reader that wants a certain value: its grammar, a value of
another kind, or a field that is given twice. In which words a fault is told, and whether with its
place in the text, is left open.
-/

namespace Testbed.Json

/-- A number that a reader can hold: an integer of 64 bits, or a binary fraction with its sign. -/
inductive Number where
  | integer (n : Int)
  | real (negative : Bool) (magnitude : Binary64)
  deriving Repr, DecidableEq

def Number.text : Number → String
  | .integer n => toString n
  | .real negative x => String.ofList (if negative then '-' :: x.text else x.text)

inductive Found where
  | null
  | bool (b : Bool)
  | number (n : Number)
  | string (s : String)
  | array
  | object
  deriving Repr, DecidableEq

inductive Wanted where
  | string
  | map
  | sequence
  | record (name : String)
  deriving Repr, DecidableEq

inductive Fault where
  /-- The text is no JSON, or a number, a surrogate or the depth is out of bounds. -/
  | grammar
  | mismatch (found : Found) (wanted : Wanted)
  | duplicate (field : String)
  deriving Repr, DecidableEq

def Found.text : Found → String
  | .null => "null"
  | .bool b => s!"boolean `{b}`"
  | .number (.integer n) => s!"integer `{n}`"
  | .number n => s!"floating point `{n.text}`"
  | .string s => "string " ++ Text.Quoted.quote s
  | .array => "sequence"
  | .object => "map"

def Wanted.text : Wanted → String
  | .string => "a string"
  | .map => "a map"
  | .sequence => "a sequence"
  | .record name => "struct " ++ name

def Fault.message : Fault → String
  | .grammar => "syntax"
  | .mismatch found wanted => s!"invalid type: {found.text}, expected {wanted.text}"
  | .duplicate field => s!"duplicate field `{field}`"

/-- The words for a fault that a reader of some record finds in the bytes of a text. -/
class Wording where
  message (record : String) (source : List UInt8) : Fault → String

/-- Where nothing else is said, a fault is told without its place. -/
instance (priority := low) : Wording := ⟨fun _ _ f => f.message⟩

/-- What is said of a fault in a text. -/
def Fault.told [Wording] (record s : String) (f : Fault) : String :=
  Wording.message record (Text.Utf8.encode s.toList) f

end Testbed.Json
