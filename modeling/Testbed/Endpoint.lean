import Testbed.Address.Reader
import Testbed.Problem
import Testbed.Text.Lower

/-!
# Endpoints

A table names the backend's endpoints by templates with placeholders. Names are matched in lower
case, and the first definition of a name counts. Targets are read against a base address whose path
ends with a slash.
-/

namespace Testbed

structure Endpoint where
  name : String
  template : String
  deriving Repr, DecidableEq

/-- The endpoints in order of their first definition. -/
structure EndpointTable where
  endpoints : List Endpoint
  deriving Repr, DecidableEq

namespace EndpointTable

/-- The endpoints of a backend that is not configured otherwise. -/
def builtIn : List (String × String) := [
  ("GetTestSteps", "testcases/\x7btestCaseId\x7d/steps"),
  ("GetTestCases", "projects/\x7bprojectId\x7d/testcases"),
  ("GetProjects", "my-projects"),
  ("CreateProject", "project/"),
  ("Login", "login/"),
  ("TestPlan", "testplan/\x7btestCaseId\x7d"),
  ("ExecuteCode", "execute-code?script_type=\x7bscript_type\x7d"),
  ("ExecutionLogs", "execution"),
  ("ExecuteWs", "testcases/\x7btestCaseId\x7d/execute-ws?script_type=\x7bscript_type\x7d")]

/-- Adds an endpoint at the end unless its name is taken. -/
def add (es : List Endpoint) (pair : String × String) : List Endpoint :=
  let name := Text.lower pair.1
  if es.any (·.name == name) then es else es ++ [⟨name, pair.2⟩]

def ofPairs (pairs : List (String × String)) : EndpointTable := ⟨pairs.foldl add []⟩

/-- The table of the given definitions; without any, the built-in one. -/
def ofDefinitions (pairs : List (String × String)) : EndpointTable :=
  ofPairs (if pairs.isEmpty then builtIn else pairs)

def default : EndpointTable := ofPairs builtIn

def size (t : EndpointTable) : Nat := t.endpoints.length

def template? (t : EndpointTable) (key : String) : Option String :=
  (t.endpoints.find? (·.name == Text.lower key)).map Endpoint.template

end EndpointTable

namespace Template

/-- Every occurrence of `piece`, taken from left to right, replaced; `skip` characters still belong
to the last one. -/
def replaceFrom (piece value : List Char) : Nat → List Char → List Char
  | _, [] => []
  | k + 1, _ :: r => replaceFrom piece value k r
  | 0, c :: r =>
    if piece.isPrefixOf (c :: r) then value ++ replaceFrom piece value (piece.length - 1) r
    else c :: replaceFrom piece value 0 r

def placeholder (name : String) : List Char := '\x7b' :: (name.toList ++ ['\x7d'])

def encodedValue (value : String) : List Char :=
  Text.Percent.encode Text.Percent.isUnreserved value.toList

def fill (template : List Char) (param : String × String) : List Char :=
  replaceFrom (placeholder param.1) (encodedValue param.2) 0 template

def fillAll (template : String) (params : List (String × String)) : String :=
  String.ofList (params.foldl fill template.toList)

end Template

structure Resolver where
  table : EndpointTable
  base : Address
  deriving Repr, DecidableEq

namespace Resolver

def isWebScheme (scheme : String) : Bool := ["http", "https", "ws", "wss"].contains scheme

def streamScheme (scheme : String) : String :=
  if scheme = "https" ∨ scheme = "wss" then "wss" else "ws"

/-- The base address in a text, to which a missing last slash is added. -/
def readBase (text : String) : Except Problem Address :=
  let whole := if text.toList.getLast? = some '/' then text else text ++ "/"
  match Address.ofText whole with
  | .error f => .error (.badAddress text f.message)
  | .ok a =>
    if isWebScheme a.scheme then .ok a
    else .error (.badAddress text s!"unsupported scheme '{a.scheme}'")

def ofBase (table : EndpointTable) (base : String) : Except Problem Resolver :=
  (readBase base).map (⟨table, ·⟩)

/-- The target that a key stands for: its template, or the key itself, filled in. -/
def resolve (r : Resolver) (key : String) (params : List (String × String)) : String :=
  Template.fillAll ((r.table.template? key).getD key) params

def httpAddress (r : Resolver) (key : String) (params : List (String × String)) :
    Except Problem Address :=
  let target := r.resolve key params
  match r.base.join target with
  | .ok a => .ok a
  | .error f => .error (.badAddress target f.message)

def streamAddress (r : Resolver) (key : String) (params : List (String × String)) :
    Except Problem Address := do
  let a ← r.httpAddress key params
  let scheme := streamScheme a.scheme
  match a.withScheme? scheme with
  | some b => .ok b
  | none => .error (.badAddress a.text s!"cannot use scheme {scheme}")

end Resolver

end Testbed
