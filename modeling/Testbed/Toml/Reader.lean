import Testbed.Decimal.Binary64
import Testbed.Text.Percent
import Testbed.Toml.Basic

/-!
# Reading TOML

The text of a document becomes its statements, line by line. A reader takes what it recognizes from
the front of the text and returns the rest.
-/

namespace Testbed.Toml

abbrev Reader (α : Type) := List Char → Option (α × List Char)

namespace Reader

def isSpace (c : Char) : Bool := c == ' ' || c == '\t'

def skipSpace (s : List Char) : List Char := s.dropWhile isSpace

/-- Characters of comments, and of strings if their marks are left out. -/
def isText (c : Char) : Bool := c == '\t' || (0x20 ≤ c.toNat && c.toNat ≠ 0x7F)

def skipComment (s : List Char) : List Char :=
  match s with
  | '#' :: r => r.dropWhile isText
  | s => s

/-- The rest after the end of a line: space, a comment, and a line break or the end of the text. -/
def endLine (s : List Char) : Option (List Char) :=
  match skipComment (skipSpace s) with
  | [] => some []
  | '\n' :: r => some r
  | '\r' :: '\n' :: r => some r
  | _ => none

def hexNumber (ds : List Char) : Option Nat :=
  ds.foldlM (fun n c => (Text.Percent.hexValue? c).map (n * 16 + ·)) 0

def codePoint? (ds : List Char) : Option Char := do
  let n ← hexNumber ds
  if n.isValidChar then some (Char.ofNat n) else none

def escaped? (c : Char) : Option Char :=
  match c with
  | 'b' => some (Char.ofNat 8)
  | 't' => some '\t'
  | 'n' => some '\n'
  | 'f' => some (Char.ofNat 12)
  | 'r' => some '\r'
  | '"' => some '"'
  | '\\' => some '\\'
  | _ => none

def before (c : Char) : Option (List Char × List Char) → Option (List Char × List Char) :=
  Option.map fun (t, r) => (c :: t, r)

def basicString : Reader (List Char)
  | [] => none
  | '"' :: r => some ([], r)
  | '\\' :: 'u' :: a :: b :: c :: d :: r => do before (← codePoint? [a, b, c, d]) (basicString r)
  | '\\' :: 'U' :: a :: b :: c :: d :: e :: f :: g :: h :: r => do
    before (← codePoint? [a, b, c, d, e, f, g, h]) (basicString r)
  | '\\' :: c :: r => do before (← escaped? c) (basicString r)
  | c :: r => if isText c then before c (basicString r) else none

def literalString : Reader (List Char)
  | [] => none
  | '\'' :: r => some ([], r)
  | c :: r => if isText c then before c (literalString r) else none

/-- Whether only space stands before the next line break. -/
def breaksLine (s : List Char) : Bool :=
  match skipSpace s with
  | '\n' :: _ => true
  | '\r' :: '\n' :: _ => true
  | _ => false

/-- A string of several lines after its opening marks; `skipping` after a backslash that ends a
line. -/
def basicLines (skipping : Bool) : Reader (List Char)
  | [] => none
  | '\n' :: r => if skipping then basicLines true r else before '\n' (basicLines false r)
  | '\r' :: '\n' :: r => if skipping then basicLines true r else before '\n' (basicLines false r)
  | '"' :: '"' :: '"' :: '"' :: '"' :: r => some (['"', '"'], r)
  | '"' :: '"' :: '"' :: '"' :: r => some (['"'], r)
  | '"' :: '"' :: '"' :: r => some ([], r)
  | '\\' :: 'u' :: a :: b :: c :: d :: r => do
    before (← codePoint? [a, b, c, d]) (basicLines false r)
  | '\\' :: 'U' :: a :: b :: c :: d :: e :: f :: g :: h :: r => do
    before (← codePoint? [a, b, c, d, e, f, g, h]) (basicLines false r)
  | '\\' :: c :: r =>
    if breaksLine (c :: r) then basicLines true (c :: r)
    else do before (← escaped? c) (basicLines false r)
  | c :: r =>
    if skipping && isSpace c then basicLines true r
    else if isText c && c ≠ '\\' then before c (basicLines false r)
    else none

def literalLines : Reader (List Char)
  | [] => none
  | '\'' :: '\'' :: '\'' :: '\'' :: '\'' :: r => some (['\'', '\''], r)
  | '\'' :: '\'' :: '\'' :: '\'' :: r => some (['\''], r)
  | '\'' :: '\'' :: '\'' :: r => some ([], r)
  | '\n' :: r => before '\n' (literalLines r)
  | '\r' :: '\n' :: r => before '\n' (literalLines r)
  | c :: r => if isText c then before c (literalLines r) else none

def skipBreak (s : List Char) : List Char :=
  match s with
  | '\n' :: r => r
  | '\r' :: '\n' :: r => r
  | s => s

def isBare (c : Char) : Bool := c.isAlphanum || c == '-' || c == '_'

def asString (r : Option (List Char × List Char)) : Option (String × List Char) :=
  r.map fun (t, s) => (String.ofList t, s)

def simpleKey : Reader String
  | '"' :: r => asString (basicString r)
  | '\'' :: r => asString (literalString r)
  | s =>
    let name := s.takeWhile isBare
    if name.isEmpty then none else some (String.ofList name, s.dropWhile isBare)

/-- Simple keys with dots between them, at most `fuel` of them. -/
def dottedKey : Nat → Reader Key
  | 0, _ => none
  | fuel + 1, s => do
    let (k, r) ← simpleKey (skipSpace s)
    match skipSpace r with
    | '.' :: r => do
      let (ks, r) ← dottedKey fuel r
      return (k :: ks, r)
    | r => return ([k], r)

/-- Nesting and dotted keys stay below this depth. -/
def depthLimit : Nat := 79

def key : Reader Key := dottedKey depthLimit

/-- Digits with single underscores between them, at least one digit. -/
def digitsOf (isDigit : Char → Bool) : Reader (List Char)
  | [] => none
  | [c] => if isDigit c then some ([c], []) else none
  | c :: d :: r =>
    if !isDigit c then none
    else if d = '_' then before c (digitsOf isDigit r)
    else if isDigit d then before c (digitsOf isDigit (d :: r))
    else some ([c], d :: r)

def decimalNumber (ds : List Char) : Nat := ds.foldl (fun n c => n * 10 + (c.toNat - 48)) 0

def sign : List Char → Bool × List Char
  | '-' :: r => (true, r)
  | '+' :: r => (false, r)
  | s => (false, s)

/-- A decimal integer: its sign and its digits, without leading zeros. -/
def decimal : Reader (Bool × List Char) := fun s => do
  let (negative, r) := sign s
  match r with
  | '0' :: r => some ((negative, ['0']), r)
  | r => do
    let (ds, r) ← digitsOf Char.isDigit r
    return ((negative, ds), r)

def integerOf (negative : Bool) (n : Nat) : Option Toml :=
  if negative then if n ≤ Nat.pow 2 63 then some (.integer (-n)) else none
  else if n < Nat.pow 2 63 then some (.integer n) else none

def isOctal (c : Char) : Bool := '0' ≤ c && c ≤ '7'

def isBinary (c : Char) : Bool := c == '0' || c == '1'

def isHex (c : Char) : Bool := (Text.Percent.hexValue? c).isSome

def numberInBase (base : Nat) (isDigit : Char → Bool) : Reader Toml := fun s => do
  let (ds, r) ← digitsOf isDigit s
  let n ← ds.foldlM (fun n c => (Text.Percent.hexValue? c).map (n * base + ·)) 0
  return (← integerOf false n, r)

def integer : Reader Toml
  | '0' :: 'x' :: r => numberInBase 16 isHex r
  | '0' :: 'o' :: r => numberInBase 8 isOctal r
  | '0' :: 'b' :: r => numberInBase 2 isBinary r
  | s => do
    let ((negative, ds), r) ← decimal s
    return (← integerOf negative (decimalNumber ds), r)

/-- Whether `ds * 10 ^ e` is beyond every binary fraction. -/
def overflows (ds : List Char) (e : Int) : Bool :=
  let n := decimalNumber ds
  if n = 0 then false
  else if 400 < (ds.length : Int) + e then
    let significant := (ds.dropWhile (· == '0')).length
    400 < (significant : Int) + e || (Binary64.ofRatio? (n * Nat.pow 10 e.toNat) 1).isNone
  else match e with
    | .ofNat k => (Binary64.ofRatio? (n * Nat.pow 10 k) 1).isNone
    | .negSucc _ => false

def exponent : Reader Int := fun s => do
  let (negative, r) := sign s
  let (ds, r) ← digitsOf Char.isDigit r
  let n : Int := decimalNumber ds
  return (if negative then -n else n, r)

/-- The result of a reader that has begun to fit: `none` if it does not fit after all. -/
abbrev Attempt (α : Type) := Option (Option α)

/-- A number with a fraction or an exponent; not begun if there is neither. -/
def float (s : List Char) : Attempt (Toml × List Char) :=
  match decimal s with
  | none => none
  | some ((negative, whole), r) =>
    let finish (fraction : List Char) (e : Int) (r : List Char) : Option (Toml × List Char) :=
      if !negative && overflows (whole ++ fraction) (e - fraction.length) then none
      else some (.float, r)
    match r with
    | '.' :: r => some do
      let (fraction, r) ← digitsOf Char.isDigit r
      match r with
      | c :: r' =>
        if c = 'e' ∨ c = 'E' then do
          let (e, r) ← exponent r'
          finish fraction e r
        else finish fraction 0 r
      | [] => finish fraction 0 []
    | c :: r =>
      if c = 'e' ∨ c = 'E' then some do
        let (e, r) ← exponent r
        finish [] e r
      else none
    | [] => none

def after? (word : String) (s : List Char) : Option (List Char) :=
  if word.toList.isPrefixOf s then some (s.drop word.length) else none

/-- Infinity or no number, with or without a sign. -/
def specialFloat (s : List Char) : Option (Toml × List Char) := do
  let r := (sign s).2
  let r ← after? "inf" r <|> after? "nan" r
  return (.float, r)

def fixedDigits (n : Nat) : Reader Nat := fun s =>
  let ds := s.take n
  if ds.length = n && ds.all Char.isDigit then some (decimalNumber ds, s.drop n) else none

def char (c : Char) : Reader Unit
  | d :: r => if c = d then some ((), r) else none
  | [] => none

def daysInMonth (year month : Nat) : Nat :=
  if month = 2 then
    if year % 4 = 0 ∧ (year % 100 ≠ 0 ∨ year % 400 = 0) then 29 else 28
  else if month = 4 ∨ month = 6 ∨ month = 9 ∨ month = 11 then 30
  else 31

def zeroPadded (width n : Nat) : String :=
  let ds := Nat.toDigits 10 n
  String.ofList (List.replicate (width - ds.length) '0' ++ ds)

def hourMinute : Reader (Nat × Nat) := fun s => do
  let (h, r) ← fixedDigits 2 s
  let ((), r) ← char ':' r
  let (m, r) ← fixedDigits 2 r
  if 23 < h ∨ 59 < m then none else some ((h, m), r)

/-- Decimals of a second, without zeros at the end and at most nine of them. -/
def secondFraction : Reader String
  | '.' :: r =>
    let ds := r.takeWhile Char.isDigit
    let kept := ((ds.take 9).reverse.dropWhile (· == '0')).reverse
    if ds.isEmpty then none
    else some (if kept.isEmpty then "" else "." ++ String.ofList kept, r.dropWhile Char.isDigit)
  | s => some ("", s)

def time : Reader String := fun s => do
  let ((h, m), r) ← hourMinute s
  let ((), r) ← char ':' r
  let (sec, r) ← fixedDigits 2 r
  let (fraction, r) ← secondFraction r
  if 60 < sec then none
  else some (s!"{zeroPadded 2 h}:{zeroPadded 2 m}:{zeroPadded 2 sec}" ++ fraction, r)

/-- The distance from universal time, if one is given. -/
def offset : Reader String
  | 'Z' :: r => some ("Z", r)
  | 'z' :: r => some ("Z", r)
  | c :: r =>
    if c = '+' ∨ c = '-' then do
      let ((h, m), r) ← hourMinute r
      let mark := if c = '-' ∧ 0 < h + m then "-" else "+"
      return (mark ++ s!"{zeroPadded 2 h}:{zeroPadded 2 m}", r)
    else some ("", c :: r)
  | [] => some ("", [])

def date : Reader String := fun s => do
  let (y, r) ← fixedDigits 4 s
  let ((), r) ← char '-' r
  let (m, r) ← fixedDigits 2 r
  let ((), r) ← char '-' r
  let (d, r) ← fixedDigits 2 r
  if m < 1 ∨ 12 < m ∨ d < 1 ∨ daysInMonth y m < d then none
  else some (s!"{zeroPadded 4 y}-{zeroPadded 2 m}-{zeroPadded 2 d}", r)

def startsTime (s : List Char) : Bool :=
  match s with
  | a :: b :: ':' :: _ => a.isDigit && b.isDigit && (decimalNumber [a, b] ≤ 23)
  | _ => false

def startsDate (s : List Char) : Bool :=
  match s with
  | a :: b :: c :: d :: '-' :: _ => a.isDigit && b.isDigit && c.isDigit && d.isDigit
  | _ => false

/-- A date, a time, or both with an optional offset. -/
def dateTime (s : List Char) : Attempt (Toml × List Char) :=
  if startsDate s then some do
    let (d, r) ← date s
    match r with
    | c :: r' =>
      if (c = 'T' ∨ c = 't' ∨ c = ' ') ∧ startsTime r' then do
        let (t, r) ← time r'
        let (o, r) ← offset r
        return (.dateTime (d ++ "T" ++ t ++ o), r)
      else return (.dateTime d, r)
    | [] => return (.dateTime d, [])
  else if startsTime s then some do
    let (t, r) ← time s
    return (.dateTime t, r)
  else none

def numeric (s : List Char) : Option (Toml × List Char) :=
  match dateTime s with
  | some result => result
  | none =>
    match float s with
    | some result => result
    | none => specialFloat s <|> integer s

def skipBlank : Nat → List Char → List Char
  | 0, s => s
  | fuel + 1, s =>
    match skipSpace s with
    | '\n' :: r => skipBlank fuel r
    | '\r' :: '\n' :: r => skipBlank fuel r
    | '#' :: r => skipBlank fuel (r.dropWhile isText)
    | r => r

mutual

/-- A value, with as many brackets open as `depth` allows. -/
def value : Nat → Nat → Reader Toml
  | 0, _, _ => none
  | fuel + 1, depth, s =>
    match s with
    | '"' :: '"' :: '"' :: r => do
      let (t, r) ← asString (basicLines false (skipBreak r))
      return (.string t, r)
    | '\'' :: '\'' :: '\'' :: r => do
      let (t, r) ← asString (literalLines (skipBreak r))
      return (.string t, r)
    | '"' :: r => do
      let (t, r) ← asString (basicString r)
      return (.string t, r)
    | '\'' :: r => do
      let (t, r) ← asString (literalString r)
      return (.string t, r)
    | '[' :: r =>
      match depth with
      | 0 => none
      | d + 1 => do
        let (items, r) ← arrayItems fuel d (skipBlank fuel r)
        return (.array items, r)
    | '\x7b' :: r =>
      match depth with
      | 0 => none
      | d + 1 =>
        match skipSpace r with
        | '\x7d' :: r => some (.table [], r)
        | r => do
          let (pairs, r) ← assignments fuel d r
          return (← ofAssignments pairs, r)
    | c :: _ =>
      if c.isDigit || c == '+' || c == '-' || c == 'i' || c == 'n' then numeric s
      else
        (after? "true" s).map (Toml.bool true, ·) <|> (after? "false" s).map (Toml.bool false, ·)
    | [] => none

def arrayItems : Nat → Nat → Reader (List Toml)
  | 0, _, _ => none
  | fuel + 1, depth, s =>
    match s with
    | ']' :: r => some ([], r)
    | s => do
      let (v, r) ← value fuel depth s
      match skipBlank fuel r with
      | ',' :: r => do
        let (vs, r) ← arrayItems fuel depth (skipBlank fuel r)
        return (v :: vs, r)
      | ']' :: r => return ([v], r)
      | _ => none

def assignments : Nat → Nat → Reader (List (Key × Toml))
  | 0, _, _ => none
  | fuel + 1, depth, s => do
    let (k, r) ← key s
    let ((), r) ← char '=' r
    let (v, r) ← value fuel depth (skipSpace r)
    match skipSpace r with
    | ',' :: r => do
      let (rest, r) ← assignments fuel depth r
      return ((k, v) :: rest, r)
    | '\x7d' :: r => return ([(k, v)], r)
    | _ => none

end

def statement (fuel : Nat) : Reader Statement
  | '[' :: '[' :: r => do
    let (k, r) ← key r
    let ((), r) ← char ']' r
    let ((), r) ← char ']' r
    return (.arrayHeader k, ← endLine r)
  | '[' :: r => do
    let (k, r) ← key r
    let ((), r) ← char ']' r
    return (.header k, ← endLine r)
  | s => do
    let (k, r) ← key s
    let ((), r) ← char '=' r
    let (v, r) ← value fuel depthLimit (skipSpace r)
    return (.assign k v, ← endLine r)

/-- The statements of a text; each takes at least one unit of fuel. -/
def statements : Nat → List Char → Option (List Statement)
  | 0, _ => none
  | fuel + 1, s =>
    match skipBlank (fuel + 1) s with
    | [] => some []
    | s => do
      let (st, r) ← statement fuel s
      return st :: (← statements fuel r)

def withoutMark (s : List Char) : List Char :=
  match s with
  | c :: r => if c.toNat = 0xFEFF then r else c :: r
  | [] => []

end Reader

open Reader in
def ofText (s : String) : Option (List (String × Toml)) := do
  let cs := withoutMark s.toList
  ofStatements (← statements (2 * cs.length + 2) cs)

end Testbed.Toml
