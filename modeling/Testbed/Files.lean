import Testbed.Text.Lines

/-!
# Files

The files of a machine, by their places. A directory is there because a file is below it, because
the working directory is, or because every machine has it. Paths begin at the working directory or,
with a slash, at the root.
-/

namespace Testbed

inductive FileFault where
  | missing
  | notDirectory
  | isDirectory
  | nameTooLong
  | other (why : String)
  deriving Repr, DecidableEq

def FileFault.message : FileFault → String
  | .missing => "No such file or directory (os error 2)"
  | .notDirectory => "Not a directory (os error 20)"
  | .isDirectory => "Is a directory (os error 21)"
  | .nameTooLong => "File name too long (os error 36)"
  | .other why => why

def FileFault.isAbsence : FileFault → Bool
  | .missing | .notDirectory => true
  | _ => false

abbrev Place := List String

/-- The working directory, and the places of files with what the files hold. -/
structure Files where
  home : Place := ["tmp", "work"]
  entries : List (Place × String)
  deriving Repr, DecidableEq

namespace Files

/-- What is at a place. The sink reads as empty and swallows what is written to it. -/
inductive Kind where
  | file (content : String)
  | directory
  | sink
  | absent
  deriving Repr, DecidableEq

def sinkPlace : Place := ["dev", "null"]

def commonDirectories : List Place :=
  [["bin"], ["dev"], ["etc"], ["home"], ["lib"], ["proc"], ["root"], ["tmp"], ["usr"], ["var"]]

def longestName : Nat := 255

def longestPath : Nat := 4095

def isBelow (p : Place) (e : Place × String) : Bool :=
  p.isPrefixOf e.1 && p.length < e.1.length

def isDirectory (fs : Files) (p : Place) : Bool :=
  p.isPrefixOf fs.home || commonDirectories.contains p || fs.entries.any (isBelow p)

def kind (fs : Files) (p : Place) : Kind :=
  if p = sinkPlace then .sink
  else match fs.entries.find? (·.1 == p) with
    | some (_, content) => .file content
    | none => if fs.isDirectory p then .directory else .absent

def enter (fs : Files) (p : Place) : Except FileFault Place :=
  match fs.kind p with
  | .directory => .ok p
  | .absent => .error .missing
  | _ => .error .notDirectory

/-- One step along a path, which must start in a directory. -/
def walk (fs : Files) (p : Place) (name : String) : Except FileFault Place := do
  let p ← fs.enter p
  if longestName < name.utf8ByteSize then throw .nameTooLong
  return if name = "." then p else if name = ".." then p.dropLast else p ++ [name]

def namesOf (path : String) : List String :=
  ((Text.cut '/' path.toList).filter (!·.isEmpty)).map String.ofList

def start (fs : Files) (path : String) : Except FileFault Place :=
  if path.isEmpty then .error .missing
  else if longestPath < path.utf8ByteSize then .error .nameTooLong
  else .ok (if path.toList.head? = some '/' then [] else fs.home)

def locate (fs : Files) (path : String) : Except FileFault Place := do
  (namesOf path).foldlM fs.walk (← fs.start path)

def meansDirectory (path : String) : Bool := path.toList.getLast? == some '/'

def read (fs : Files) (path : String) : Except FileFault String := do
  let p ← fs.locate path
  match fs.kind p with
  | .directory => throw .isDirectory
  | .absent => throw .missing
  | .sink => if meansDirectory path then throw .notDirectory else return ""
  | .file content => if meansDirectory path then throw .notDirectory else return content

def put (fs : Files) (p : Place) (content : String) : Files :=
  { fs with entries := fs.entries.filter (·.1 != p) ++ [(p, content)] }

/-- Nothing is written where only a directory can be meant, whether it is there or not. -/
def write (fs : Files) (path content : String) : Except FileFault Files := do
  if meansDirectory path then
    let above ← (namesOf path).dropLast.foldlM fs.walk (← fs.start path)
    let _ ← fs.enter above
    throw .isDirectory
  let p ← fs.locate path
  match fs.kind p with
  | .directory => throw .isDirectory
  | .sink => return fs
  | _ => return fs.put p content

/-- Files by their paths from the working directory; the last content of a path counts. -/
def ofPairs (pairs : List (String × String)) : Files :=
  pairs.foldl (fun fs (path, content) => fs.put (fs.home ++ namesOf path) content) { entries := [] }

end Files

end Testbed
