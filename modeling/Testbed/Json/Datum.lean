import Testbed.Json.Decode

/-!
# JSON values and their compact text

Values without the accidents of their spelling: members sorted by name, the last of a repeated
name kept. The compact text has no space, and escapes only what it must.
-/

namespace Testbed.Json

inductive Datum where
  | null
  | bool (b : Bool)
  | number (n : Number)
  | string (s : String)
  | array (items : List Datum)
  /-- Members in strictly increasing order of their names. -/
  | object (members : List (String × Datum))
  deriving Repr

/-- Puts a member in its place; a member of the same name gives way. -/
def insertMember (key : String) (v : Datum) : List (String × Datum) → List (String × Datum)
  | [] => [(key, v)]
  | (k, w) :: r =>
    if key < k then (key, v) :: (k, w) :: r
    else if key = k then (key, v) :: r
    else (k, w) :: insertMember key v r

mutual

/-- The value of a tree whose brackets open at the given depth. -/
def datum (depth : Nat) : Json → Except Fault Datum
  | .null => .ok .null
  | .bool b => .ok (.bool b)
  | .number n => (readNumber n).map .number
  | .string t => (readString t).map .string
  | .array items closed => do
    entering depth
    let items ← datumItems (depth + 1) closed items
    return .array items
  | .object members closed => do
    entering depth
    let members ← datumMembers (depth + 1) closed [] members
    return .object members
  | .broken => .error .grammar

def datumItems (depth : Nat) (closed : Bool) : List Json → Except Fault (List Datum)
  | [] => do closing closed; return []
  | j :: r => do
    let v ← datum depth j
    let vs ← datumItems depth closed r
    return v :: vs

def datumMembers (depth : Nat) (closed : Bool) (seen : List (String × Datum)) :
    List (Option String × Json) → Except Fault (List (String × Datum))
  | [] => do closing closed; return seen
  | (key, j) :: r => do
    let key ← readString key
    let v ← datum depth j
    datumMembers depth closed (insertMember key v seen) r

end

def escapeChar (c : Char) : List Char :=
  let n := c.toNat
  if c = '"' then ['\\', '"']
  else if c = '\\' then ['\\', '\\']
  else if n = 8 then ['\\', 'b']
  else if n = 12 then ['\\', 'f']
  else if c = '\n' then ['\\', 'n']
  else if c = '\r' then ['\\', 'r']
  else if c = '\t' then ['\\', 't']
  else if n < 0x20 then ['\\', 'u', '0', '0', Nat.digitChar (n / 16), Nat.digitChar (n % 16)]
  else [c]

def quote (s : String) : List Char := '"' :: (s.toList.flatMap escapeChar ++ ['"'])

mutual

def Datum.chars : Datum → List Char
  | .null => "null".toList
  | .bool true => "true".toList
  | .bool false => "false".toList
  | .number n => n.text.toList
  | .string s => quote s
  | .array items => '[' :: (charsItems items ++ [']'])
  | .object members => '\x7b' :: (charsMembers members ++ ['\x7d'])

def charsItems : List Datum → List Char
  | [] => []
  | [v] => v.chars
  | v :: w :: r => v.chars ++ ',' :: charsItems (w :: r)

def charsMembers : List (String × Datum) → List Char
  | [] => []
  | [(k, v)] => quote k ++ ':' :: v.chars
  | (k, v) :: w :: r => quote k ++ ':' :: (v.chars ++ ',' :: charsMembers (w :: r))

end

def Datum.text (v : Datum) : String := String.ofList v.chars

end Testbed.Json
