import Testbed.Json.Token
import Testbed.Text.Utf8

/-!
# JSON as written

The tree of a JSON text, whole or broken off: every text has a tree, which holds what stands before
its first grammatical fault. A reader that goes through a tree from left to right meets values and
the fault in the order of the text.
-/

namespace Testbed

/-- A JSON text as far as it is well formed. Members keep their order and their repeats. -/
inductive Json where
  | null
  | bool (b : Bool)
  | number (n : Numeral)
  | string (text : Option String)
  | array (items : List Json) (closed : Bool)
  | object (members : List (Option String × Json)) (closed : Bool)
  /-- No value stands here. -/
  | broken
  deriving Repr

namespace Json

mutual

/-- Whether the tree has no fault. Surrogates without a partner are no fault of the grammar. -/
def intact : Json → Bool
  | .array items closed => intactItems items && closed
  | .object members closed => intactMembers members && closed
  | .broken => false
  | _ => true

def intactItems : List Json → Bool
  | [] => true
  | j :: r => j.intact && intactItems r

def intactMembers : List (Option String × Json) → Bool
  | [] => true
  | (_, j) :: r => j.intact && intactMembers r

end

/-- An open bracket with the values read since, last first. -/
inductive Frame where
  | array (items : List Json)
  | object (members : List (Option String × Json))
  /-- An object whose last member still lacks its value. -/
  | member (members : List (Option String × Json)) (key : Option String)

inductive Awaited where
  | value
  | itemOrClose
  | keyOrClose
  | key
  | colon
  | commaOrClose

/-- A text in the middle of being read, or read to its end or its first fault; `clean` says that
nothing follows the tree. -/
inductive Progress where
  | reading (stack : List Frame) (awaited : Awaited)
  | done (tree : Json) (clean : Bool)

/-- The tree when the text breaks off inside the given frames, the last value being `j`. -/
def abandon : List Frame → Json → Json
  | [], j => j
  | .array items :: s, j => abandon s (.array (j :: items).reverse false)
  | .object members :: s, _ => abandon s (.object members.reverse false)
  | .member members key :: s, j => abandon s (.object ((key, j) :: members).reverse false)

/-- The tree when no value can be read where one was awaited, or a frame cannot go on. -/
def breakOff (stack : List Frame) (awaited : Awaited) : Json :=
  match awaited, stack with
  | .commaOrClose, .array items :: s => abandon s (.array items.reverse false)
  | .commaOrClose, .object members :: s => abandon s (.object members.reverse false)
  | .itemOrClose, .array items :: s => abandon s (.array items.reverse false)
  | .keyOrClose, .object members :: s => abandon s (.object members.reverse false)
  | .key, .object members :: s => abandon s (.object members.reverse false)
  | _, s => abandon s .broken

/-- A complete value takes its place in the frame above. -/
def place (stack : List Frame) (j : Json) : Progress :=
  match stack with
  | [] => .done j true
  | .array items :: s => .reading (.array (j :: items) :: s) .commaOrClose
  | .member members key :: s => .reading (.object ((key, j) :: members) :: s) .commaOrClose
  | .object members :: s => .reading (.object members :: s) .commaOrClose

def startValue (stack : List Frame) : Token → Option Progress
  | .null => some (place stack .null)
  | .bool b => some (place stack (.bool b))
  | .number n => some (place stack (.number n))
  | .string t => some (place stack (.string t))
  | .openArray => some (.reading (.array [] :: stack) .itemOrClose)
  | .openObject => some (.reading (.object [] :: stack) .keyOrClose)
  | _ => none

def advance? (stack : List Frame) (awaited : Awaited) (t : Token) : Option Progress :=
  match awaited, stack, t with
  | .value, s, t => startValue s t
  | .itemOrClose, .array items :: s, .closeArray => some (place s (.array items.reverse true))
  | .itemOrClose, s, t => startValue s t
  | .keyOrClose, .object members :: s, .closeObject =>
    some (place s (.object members.reverse true))
  | .keyOrClose, .object members :: s, .string key => some (.reading (.member members key :: s) .colon)
  | .key, .object members :: s, .string key => some (.reading (.member members key :: s) .colon)
  | .colon, s, .colon => some (.reading s .value)
  | .commaOrClose, .array items :: s, .comma => some (.reading (.array items :: s) .value)
  | .commaOrClose, .array items :: s, .closeArray => some (place s (.array items.reverse true))
  | .commaOrClose, .object members :: s, .comma => some (.reading (.object members :: s) .key)
  | .commaOrClose, .object members :: s, .closeObject =>
    some (place s (.object members.reverse true))
  | _, _, _ => none

def Progress.step : Progress → Token → Progress
  | .reading stack awaited, t =>
    match advance? stack awaited t with
    | some p => p
    | none => .done (breakOff stack awaited) true
  | .done tree _, _ => .done tree false

def Progress.finish : Progress → Json × Bool
  | .reading stack awaited => (breakOff stack awaited, true)
  | .done tree clean => (tree, clean)

def Progress.run (p : Progress) (ts : List Token) : Progress := ts.foldl Progress.step p

/-- The tree of a text, and whether nothing but space follows it. -/
def ofText (s : String) : Json × Bool :=
  (Progress.run (.reading [] .value) (tokens s.toList)).finish

/-- The tree of a text that is given as bytes. -/
def ofBytes (bytes : List UInt8) : Json × Bool :=
  (Progress.run (.reading [] .value) (Mode.between.tokensOf (Text.Utf8.symbols bytes))).finish

end Json

end Testbed
