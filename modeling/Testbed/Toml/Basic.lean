/-!
# TOML values and statements

A document is a list of statements: headers that open a table, and assignments to a dotted key in
the table that is open. Tables keep the order of their keys.
-/

namespace Testbed

inductive Toml where
  | string (s : String)
  | integer (n : Int)
  | float
  | bool (b : Bool)
  /-- A date, a time, or both, in its usual spelling. -/
  | dateTime (text : String)
  | array (items : List Toml)
  | table (entries : List (String × Toml))
  deriving Repr

namespace Toml

abbrev Key := List String

inductive Statement where
  /-- Opens the table of the key. -/
  | header (key : Key)
  /-- Opens a new table at the end of the array of the key. -/
  | arrayHeader (key : Key)
  | assign (key : Key) (value : Toml)
  deriving Repr

/-- What stands under a key while a document is being built. -/
inductive Item where
  | value (v : Toml)
  /-- A table; `implicit` if only keys below it have been named, `dotted` if by a dotted key. -/
  | table (isImplicit : Bool) (dotted : Bool) (entries : List (String × Item))
  /-- The tables of array headers. -/
  | tables (ts : List (List (String × Item)))
  deriving Repr

abbrev Entries := List (String × Item)

def find? {α : Type} (k : String) (es : List (String × α)) : Option α :=
  (es.find? (·.1 == k)).map Prod.snd

/-- Puts an item under a key, at the end if the key is new. -/
def put (k : String) (i : Item) (es : Entries) : Entries :=
  if es.any (·.1 == k) then es.map fun e => if e.1 == k then (k, i) else e
  else es ++ [(k, i)]

/-- Changes the table that a key leads to, making the tables on the way that are missing. The change
is told whether the table came about by a dotted key. A dotted key may not enter a table that has a
header of its own. -/
def descend (dotted : Bool) (f : Bool → Entries → Option Entries) :
    Key → Bool → Entries → Option Entries
  | [], isDotted, es => f isDotted es
  | k :: r, _, es =>
    match find? k es with
    | none => do return put k (.table true dotted (← descend dotted f r dotted [])) es
    | some (.value _) => none
    | some (.tables ts) => do
      let last ← ts.getLast?
      return put k (.tables (ts.dropLast ++ [← descend dotted f r false last])) es
    | some (.table isImplicit isDotted inner) =>
      if dotted && !isImplicit then none
      else do return put k (.table isImplicit isDotted (← descend dotted f r isDotted inner)) es

/-- Opens a table: a new one, or one that has no header of its own yet. -/
def openTable (k : String) (es : Entries) : Option Entries :=
  match find? k es with
  | none => some (put k (.table false false []) es)
  | some (.table true false inner) => some (put k (.table false false inner) es)
  | some _ => none

/-- Opens a table at the end of an array of tables. -/
def openArrayTable (k : String) (es : Entries) : Option Entries :=
  match find? k es with
  | none => some (put k (.tables [[]]) es)
  | some (.tables ts) => some (put k (.tables (ts ++ [[]])) es)
  | some _ => none

/-- Gives a new key its value. A dotted key must lead to a table of dotted keys, a simple one to any
other. -/
def define (simple : Bool) (k : String) (i : Item) (isDotted : Bool) (es : Entries) :
    Option Entries :=
  if isDotted == simple || (find? k es).isSome then none else some (put k i es)

def splitLast? (key : Key) : Option (Key × String) := do return (key.dropLast, ← key.getLast?)

def assign (key : Key) (i : Item) (es : Entries) : Option Entries := do
  let (path, k) ← splitLast? key
  descend true (define path.isEmpty k i) path false es

/-- The whole document and the key of the table that is open. -/
structure Builder where
  root : Entries
  current : Key

def Builder.step (b : Builder) : Statement → Option Builder
  | .header key => do
    let (path, k) ← splitLast? key
    return ⟨← descend false (fun _ => openTable k) path false b.root, key⟩
  | .arrayHeader key => do
    let (path, k) ← splitLast? key
    return ⟨← descend false (fun _ => openArrayTable k) path false b.root, key⟩
  | .assign key v => do
    return { b with root := ← descend false (fun _ => assign key (.value v)) b.current false b.root }

mutual

def Item.toToml : Item → Toml
  | .value v => v
  | .table _ _ es => .table (entriesToToml es)
  | .tables ts => .array (tablesToToml ts)

def entriesToToml : List (String × Item) → List (String × Toml)
  | [] => []
  | (k, i) :: r => (k, i.toToml) :: entriesToToml r

def tablesToToml : List (List (String × Item)) → List Toml
  | [] => []
  | es :: r => .table (entriesToToml es) :: tablesToToml r

end

/-- The table of a document, unless two statements contradict each other. -/
def ofStatements (ss : List Statement) : Option (List (String × Toml)) := do
  let b ← ss.foldlM Builder.step ⟨[], []⟩
  return entriesToToml b.root

def ofAssignments (pairs : List (Key × Toml)) : Option Toml := do
  let es ← pairs.foldlM (fun es (key, v) => assign key (.value v) es) []
  return .table (entriesToToml es)

end Toml

end Testbed
