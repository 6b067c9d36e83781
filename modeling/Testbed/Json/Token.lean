/-!
# JSON tokens

Text is cut into tokens by an automaton that looks at one character at a time. The first character
that fits nowhere ends the token list with `wrong`; nothing after it is looked at. Where the text is
given as bytes, those that are no character may stand inside a string, which then has no text.
-/

namespace Testbed

/-- A number as spelled, each part in decimal digits; a number has a fraction or an exponent
exactly when the part is not empty. -/
structure Numeral where
  negative : Bool
  whole : List Nat
  fraction : List Nat
  exponentNegative : Bool
  exponent : List Nat
  deriving Repr, DecidableEq

namespace Json

inductive Token where
  | openArray
  | closeArray
  | openObject
  | closeObject
  | comma
  | colon
  | null
  | bool (b : Bool)
  | number (n : Numeral)
  /-- A string; it has no text if its escapes leave a surrogate without its partner, or if some of
  its bytes are no character. -/
  | string (text : Option String)
  /-- Something that is no token. -/
  | wrong
  deriving Repr, DecidableEq

/-- A string that is being read: the characters so far, last first, whether a surrogate was left
alone or bytes were no character, and a leading surrogate that waits for its partner. -/
structure Quoted where
  reversed : List Char
  alone : Bool
  leading : Option Nat
  deriving Repr, DecidableEq

inductive NumberPart where
  | minus
  | zero
  | whole
  | point
  | fraction
  | mark
  | sign
  | exponent
  deriving Repr, DecidableEq

inductive Mode where
  | between
  | word (rest : List Char) (token : Token)
  | number (part : NumberPart) (n : Numeral)
  | string (q : Quoted)
  | escape (q : Quoted)
  | hex (q : Quoted) (digits : Nat) (value : Nat)
  | stopped
  deriving Repr, DecidableEq

namespace Quoted

def start : Quoted := ⟨[], false, none⟩

/-- A leading surrogate is left alone by whatever is not its partner. -/
def settle (q : Quoted) : Quoted :=
  { q with alone := q.alone || q.leading.isSome, leading := none }

def add (q : Quoted) (c : Char) : Quoted :=
  { q.settle with reversed := c :: q.reversed }

/-- A code unit from an escape: half of a pair, or a character. -/
def addUnit (q : Quoted) (n : Nat) : Quoted :=
  if 0xD800 ≤ n ∧ n ≤ 0xDBFF then { q.settle with leading := some n }
  else if 0xDC00 ≤ n ∧ n ≤ 0xDFFF then
    match q.leading with
    | some h =>
      { q with
        reversed := Char.ofNat (0x10000 + (h - 0xD800) * 0x400 + (n - 0xDC00)) :: q.reversed
        leading := none }
    | none => { q with alone := true }
  else q.add (Char.ofNat n)

def spoil (q : Quoted) : Quoted := { q.settle with alone := true }

def token (q : Quoted) : Token :=
  let q := q.settle
  .string (if q.alone then none else some (String.ofList q.reversed.reverse))

end Quoted

def isSpace (c : Char) : Bool := c == ' ' || c == '\t' || c == '\n' || c == '\r'

def digit? (c : Char) : Option Nat := if c.isDigit then some (c.toNat - 48) else none

def hexDigit? (c : Char) : Option Nat :=
  if c.isDigit then some (c.toNat - 48)
  else if 'a' ≤ c ∧ c ≤ 'f' then some (c.toNat - 87)
  else if 'A' ≤ c ∧ c ≤ 'F' then some (c.toNat - 55)
  else none

def escaped? (c : Char) : Option Char :=
  if c = '"' then some '"'
  else if c = '\\' then some '\\'
  else if c = '/' then some '/'
  else if c = 'b' then some (Char.ofNat 8)
  else if c = 'f' then some (Char.ofNat 12)
  else if c = 'n' then some '\n'
  else if c = 'r' then some '\r'
  else if c = 't' then some '\t'
  else none

def fail : List Token × Mode := ([.wrong], .stopped)

def begin (c : Char) : List Token × Mode :=
  if isSpace c then ([], .between)
  else if c = '[' then ([.openArray], .between)
  else if c = ']' then ([.closeArray], .between)
  else if c = '\x7b' then ([.openObject], .between)
  else if c = '\x7d' then ([.closeObject], .between)
  else if c = ',' then ([.comma], .between)
  else if c = ':' then ([.colon], .between)
  else if c = '"' then ([], .string .start)
  else if c = 'n' then ([], .word ['u', 'l', 'l'] .null)
  else if c = 't' then ([], .word ['r', 'u', 'e'] (.bool true))
  else if c = 'f' then ([], .word ['a', 'l', 's', 'e'] (.bool false))
  else if c = '-' then ([], .number .minus ⟨true, [], [], false, []⟩)
  else match digit? c with
    | some 0 => ([], .number .zero ⟨false, [0], [], false, []⟩)
    | some d => ([], .number .whole ⟨false, [d], [], false, []⟩)
    | none => fail

/-- The next part of a number, if the character continues it. -/
def NumberPart.next? (part : NumberPart) (n : Numeral) (c : Char) : Option (NumberPart × Numeral) :=
  let inWhole : Option (NumberPart × Numeral) :=
    if c = '.' then some (.point, n)
    else if c = 'e' ∨ c = 'E' then some (.mark, n)
    else none
  match part, digit? c with
  | .minus, some 0 => some (.zero, { n with whole := [0] })
  | .minus, some d => some (.whole, { n with whole := [d] })
  | .whole, some d => some (.whole, { n with whole := n.whole ++ [d] })
  | .point, some d => some (.fraction, { n with fraction := [d] })
  | .fraction, some d => some (.fraction, { n with fraction := n.fraction ++ [d] })
  | .mark, some d => some (.exponent, { n with exponent := [d] })
  | .sign, some d => some (.exponent, { n with exponent := [d] })
  | .exponent, some d => some (.exponent, { n with exponent := n.exponent ++ [d] })
  | .zero, none => inWhole
  | .whole, none => inWhole
  | .fraction, none => if c = 'e' ∨ c = 'E' then some (.mark, n) else none
  | .mark, none =>
    if c = '+' then some (.sign, n)
    else if c = '-' then some (.sign, { n with exponentNegative := true })
    else none
  | _, _ => none

/-- Whether a number may end after the part, given the character that follows. A zero must not be
followed by another digit. -/
def NumberPart.mayEnd (part : NumberPart) (next : Option Char) : Bool :=
  match part with
  | .zero => !(next.any Char.isDigit)
  | .whole | .fraction | .exponent => true
  | .minus | .point | .mark | .sign => false

def Mode.step (m : Mode) (c : Char) : List Token × Mode :=
  match m with
  | .between => begin c
  | .word [] t => let (ts, m') := begin c; (t :: ts, m')
  | .word [d] t => if c = d then ([t], .between) else fail
  | .word (d :: r) t => if c = d then ([], .word r t) else fail
  | .number part n =>
    match part.next? n c with
    | some (part', n') => ([], .number part' n')
    | none =>
      if part.mayEnd (some c) then let (ts, m') := begin c; (.number n :: ts, m') else fail
  | .string q =>
    if c = '"' then ([q.token], .between)
    else if c = '\\' then ([], .escape q)
    else if c.toNat < 0x20 then fail
    else ([], .string (q.add c))
  | .escape q =>
    if c = 'u' then ([], .hex q 0 0)
    else match escaped? c with
      | some d => ([], .string (q.add d))
      | none => fail
  | .hex q digits value =>
    match hexDigit? c with
    | none => fail
    | some d =>
      let value := value * 16 + d
      if digits = 3 then ([], .string (q.addUnit value)) else ([], .hex q (digits + 1) value)
  | .stopped => ([], .stopped)

/-- The tokens that are still open at the end of the text. -/
def Mode.finish (m : Mode) : List Token :=
  match m with
  | .between | .stopped => []
  | .word [] t => [t]
  | .number part n => if part.mayEnd none then [.number n] else [.wrong]
  | .word (_ :: _) _ | .string _ | .escape _ | .hex .. => [.wrong]

def Mode.tokens (m : Mode) : List Char → List Token
  | [] => m.finish
  | c :: r => let (ts, m') := m.step c; ts ++ m'.tokens r

def tokens (s : List Char) : List Token := Mode.between.tokens s

/-- What bytes do that are no character: they spoil a string and fit nowhere else. -/
def Mode.spoil (m : Mode) : List Token × Mode :=
  match m with
  | .string q => ([], .string q.spoil)
  | .word [] t => ([t, .wrong], .stopped)
  | .number part n => if part.mayEnd none then ([.number n, .wrong], .stopped) else fail
  | .stopped => ([], .stopped)
  | .between | .word (_ :: _) _ | .escape _ | .hex .. => fail

def Mode.tokensOf (m : Mode) : List (Option Char) → List Token
  | [] => m.finish
  | some c :: r => let (ts, m') := m.step c; ts ++ m'.tokensOf r
  | none :: r => let (ts, m') := m.spoil; ts ++ m'.tokensOf r

theorem Mode.tokensOf_map_some (m : Mode) (s : List Char) : m.tokensOf (s.map some) = m.tokens s := by
  induction s generalizing m with
  | nil => rfl
  | cons c r ih => simp only [List.map_cons, tokensOf, tokens, ih]

end Json

end Testbed
