import Testbed.Address.HostText

/-!
# Reading addresses

An address is read from left to right: scheme, authority, path, query, fragment. Space at the ends
and line breaks anywhere do not count, and a backslash is a slash where the scheme is special. A
reference is read against a base, from which it takes the parts it does not name.
-/

namespace Testbed.Address

open Text (splitWhere)

def keepsAllBut (set : String) (c : Char) : Bool :=
  0x20 < c.toNat && c.toNat < 0x7F && !set.toList.contains c

def keepsInFragment : Char → Bool := keepsAllBut "\"<>`"

def keepsInPath : Char → Bool := keepsAllBut "\"<>`#?\x7b\x7d"

def keepsInCredentials : Char → Bool := keepsAllBut "\"<>`#?\x7b\x7d/:;=@[\\]^|"

def keepsInQuery (special : Bool) : Char → Bool :=
  if special then keepsAllBut "\"#<>'" else keepsAllBut "\"#<>"

def encoded (keep : Char → Bool) (s : List Char) : String :=
  String.ofList (Text.Percent.encode keep s)

/-- The text that counts: no space or control at the ends, no tab or line break anywhere. -/
def significant (s : List Char) : List Char :=
  let drop := List.dropWhile (fun c : Char => c.toNat ≤ 0x20)
  ((drop s).reverse |> drop).reverse.filter fun c => c ≠ '\t' && c ≠ '\n' && c ≠ '\r'

def isSchemeChar (c : Char) : Bool := c.isAlphanum || c == '+' || c == '-' || c == '.'

/-- The scheme in lower case and what follows its colon. -/
def splitScheme (s : List Char) : Option (String × List Char) :=
  match s with
  | [] => none
  | c :: _ =>
    if c.isAlpha then
      match splitWhere (!isSchemeChar ·) s with
      | (name, ':' :: r) => some (String.ofList (name.map Char.toLower), r)
      | _ => none
    else none

/-- The parts that a question mark and a hash sign introduce. -/
structure Tail where
  body : List Char
  query : Option (List Char)
  fragment : Option (List Char)

def splitTail (s : List Char) : Tail :=
  let (s, fragment) := match Text.splitOnce '#' s with
    | some (a, b) => (a, some b)
    | none => (s, none)
  match Text.splitOnce '?' s with
  | some (a, b) => ⟨a, some b, fragment⟩
  | none => ⟨s, none, fragment⟩

def Tail.queryText (special : Bool) (t : Tail) : Option String :=
  t.query.map (encoded (keepsInQuery special))

def Tail.fragmentText (t : Tail) : Option String := t.fragment.map (encoded keepsInFragment)

def isSlash (special : Bool) (c : Char) : Bool := c == '/' || (special && c == '\\')

def isSingleDot (s : List Char) : Bool :=
  ["." , "%2e"].contains (Text.asciiLower (String.ofList s))

def isDoubleDot (s : List Char) : Bool :=
  ["..", ".%2e", "%2e.", "%2e%2e"].contains (Text.asciiLower (String.ofList s))

def pieces (special : Bool) (s : List Char) : List (List Char) :=
  Text.cut '/' (s.map fun c => if isSlash special c then '/' else c)

def isDriveLetter (s : List Char) : Bool :=
  match s with
  | [c, d] => c.isAlpha && (d == ':' || d == '|')
  | _ => false

/-- Whether a segment is a drive letter, up to a backslash that does not separate segments. -/
def isDrive (s : String) : Bool := isDriveLetter (s.toList.takeWhile (· ≠ '\\'))

/-- The segments without the last one; a drive letter stays. -/
def shorten (ss : List String) : List String :=
  if ss.getLast?.any isDrive then ss else ss.dropLast

/-- A piece as a segment below others; a drive letter that begins the path of a file is written
with a colon. -/
def segmentOf (file : Bool) (before : List String) (p : List Char) : String :=
  if file && before.isEmpty && isDriveLetter p then String.ofList (p.take 1 ++ [':'])
  else encoded keepsInPath p

/-- Adds the pieces of a path to the segments before them. Two dots take the last segment away, one
dot adds nothing; at the end either leaves an empty segment. -/
def addPieces (file : Bool) : List String → List (List Char) → List String
  | before, [] => before
  | before, p :: r =>
    if isDoubleDot p then
      if r.isEmpty then shorten before ++ [""] else addPieces file (shorten before) r
    else if isSingleDot p then
      if r.isEmpty then before ++ [""] else addPieces file before r
    else addPieces file (before ++ [segmentOf file before p]) r

def readPath (special : Bool) (before : List String) (s : List Char) : List String :=
  addPieces false before (pieces special s)

def readPort (special : Bool) (s : List Char) : Except Flaw (Option Nat × List Char) :=
  let (digits, r) := splitWhere (!Char.isDigit ·) s
  let ends := match r with
    | [] => true
    | c :: _ => !special && c == '\\'
  let n := digits.foldl (fun n c => n * 10 + (c.toNat - 48)) 0
  if !ends || 65535 < n then .error .invalidPort
  else .ok (if digits.isEmpty then none else some n, r)

/-- A host text and what stands after it from the port's colon on. -/
def splitHost (inside : Bool) : List Char → List Char × List Char
  | [] => ([], [])
  | c :: r =>
    if c = ':' ∧ !inside then ([], c :: r)
    else
      let (h, t) := splitHost (if c = '[' then true else if c = ']' then false else inside) r
      (c :: h, t)

def splitCredentials (s : List Char) : Option (List Char × List Char) :=
  let host := (s.reverse.takeWhile (· ≠ '@')).reverse
  if host.length = s.length then none else some (s.take (s.length - host.length - 1), host)

structure Authority where
  username : String
  password : String
  host : Host
  port : Option Nat
  rest : List Char

def readAuthority (scheme : String) (ended : Bool) (s : List Char) : Except Flaw Authority := do
  let special := isSpecialScheme scheme
  let (user, hostPort) := (splitCredentials s).getD ([], s)
  if ended && (splitCredentials s).isSome && user.isEmpty && hostPort.isEmpty then
    throw .emptyHost
  let (name, password) := (Text.splitOnce ':' user).getD (user, [])
  let username := encoded keepsInCredentials name
  let password := encoded keepsInCredentials password
  let (hostText, portText) := splitHost false hostPort
  let named := !username.isEmpty || !password.isEmpty
  if hostText.isEmpty && (special || named || !portText.isEmpty) then throw .emptyHost
  let host ← if special then Host.read hostText else Host.readOpaque hostText
  let (port, rest) ← match portText with
    | ':' :: r => readPort special r
    | r => pure (none, r)
  return { username, password, host, port := keptPort scheme port, rest }

def readAfterSlashes (scheme : String) (t : Tail) (s : List Char) : Except Flaw Address := do
  let special := isSpecialScheme scheme
  let (authority, pathText) := splitWhere (isSlash special) s
  let ended := !pathText.isEmpty || t.query.isSome || t.fragment.isSome
  let a ← readAuthority scheme ended authority
  let segments := match a.rest ++ pathText with
    | [] => if special then [""] else []
    | c :: r => readPath special [] (if isSlash special c then r else c :: r)
  return {
    scheme := scheme
    username := a.username
    password := a.password
    host := some a.host
    port := a.port
    path := .segments segments
    query := t.queryText special
    fragment := t.fragmentText }

def withoutLeadingEmpty (ss : List String) : List String :=
  match ss.dropWhile String.isEmpty with
  | [] => [""]
  | r => r

/-- A file address: two slashes introduce a host, and the path is never relative. A drive letter
that begins the path leaves no host. Without a host, the slash that ended it begins the path. -/
def readFile (t : Tail) : Except Flaw Address := do
  let file (host : Host) (path : List Char) : Address :=
    let segments := addPieces true [] (pieces true path)
    { scheme := "file"
      username := ""
      password := ""
      host := some (if (segments.take 1).any isDrive then .name "" else host)
      port := none
      path := .segments (withoutLeadingEmpty segments)
      query := t.queryText true
      fragment := t.fragmentText }
  match t.body with
  | a :: b :: r =>
    if isSlash true a && isSlash true b then
      let (hostText, path) := splitWhere (isSlash true) r
      if hostText.isEmpty || isDriveLetter hostText then return file (.name "") r
      let host ← Host.read hostText
      if host = .name "localhost" then return file (.name "") path
      return file host (path.drop 1)
    else return file (.name "") (if isSlash true a then b :: r else t.body)
  | [a] => return file (.name "") (if isSlash true a then [] else [a])
  | [] => return file (.name "") []

def readOther (scheme : String) (t : Tail) : Except Flaw Address :=
  let other (path : Path) : Address := {
    scheme := scheme
    username := ""
    password := ""
    host := none
    port := none
    path := path
    query := t.queryText false
    fragment := t.fragmentText }
  match t.body with
  | '/' :: '/' :: r => readAfterSlashes scheme t r
  | '/' :: r => .ok (other (.segments (readPath false [] r)))
  | s => .ok (other (.opaqueText (encoded Host.isPlain s)))

def readAfterScheme (scheme : String) (r : List Char) : Except Flaw Address :=
  let t := splitTail r
  if scheme = "file" then readFile t
  else if isSpecialScheme scheme then
    readAfterSlashes scheme t (t.body.dropWhile (isSlash true))
  else readOther scheme t

def ofText (s : String) : Except Flaw Address :=
  match splitScheme (significant s.toList) with
  | some (scheme, r) => readAfterScheme scheme r
  | none => .error .relativeWithoutBase

def Path.segmentList : Path → List String
  | .segments ss => ss
  | .opaqueText _ => []

/-- A reference that names no scheme, or that of its special base without a host. -/
def readRelative (base : Address) (s : List Char) : Except Flaw Address :=
  let t := splitTail s
  let special := base.isSpecial
  let query := t.queryText special
  let fragment := t.fragmentText
  match t.body with
  | [] =>
    .ok { base with
      query := if t.query.isSome then query else base.query
      fragment := fragment }
  | c :: r =>
    if isSlash special c then
      match r with
      | d :: r' =>
        if isSlash special d then
          readAfterSlashes base.scheme t
            (if c = '/' ∧ d = '/' then r' else t.body.dropWhile (isSlash special))
        else .ok { base with path := .segments (readPath special [] r), query, fragment }
      | [] => .ok { base with path := .segments (readPath special [] []), query, fragment }
    else
      let before := (Path.segmentList base.path).dropLast
      .ok { base with path := .segments (readPath special before t.body), query, fragment }

def join (base : Address) (s : String) : Except Flaw Address :=
  let s := significant s.toList
  match splitScheme s with
  | some (scheme, r) =>
    let slashes := (r.takeWhile (isSlash true)).length
    if scheme = base.scheme ∧ isSpecialScheme scheme ∧ scheme ≠ "file" ∧ slashes < 2 then
      readRelative base r
    else readAfterScheme scheme r
  | none =>
    match base.path, s with
    | .opaqueText _, '#' :: _ => readRelative base s
    | .opaqueText _, _ => .error .relativeToOpaque
    | .segments _, _ => readRelative base s

/-- The same address under another scheme, if both are special and there is a host. A port that
the new scheme implies is dropped. -/
def withScheme? (a : Address) (scheme : String) : Option Address :=
  if a.isSpecial && isSpecialScheme scheme && a.hasHost then
    some { a with scheme := scheme, port := keptPort scheme a.port }
  else none

end Testbed.Address
