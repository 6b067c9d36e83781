import Testbed.Endpoint
import Testbed.Http.Message
import Testbed.Output
import Testbed.Plan

/-!
# The backend

What is asked of the backend, and how its replies are read: a test plan is fetched, and a script is
handed over to be executed. A reply without success tells why in the member `detail`, or not at all.
-/

namespace Testbed

/-- The backend's endpoints and the credentials that go along with every request. -/
structure Backend where
  resolver : Resolver
  apiKey : Option String
  bearer : Option String
  deriving Repr, DecidableEq

namespace Backend

open Http Json

/-- A backend without a bearer credential. An empty key is none. -/
def create (resolver : Resolver) (apiKey : Option String) : Except Problem Backend :=
  let key := apiKey.filter (!·.isEmpty)
  if key.all isHeaderValue then .ok ⟨resolver, key, none⟩
  else .error (.settings s!"Invalid api_key: {badHeader}")

/-- The same backend with another credential; a blank one is none. -/
def withBearer (b : Backend) (token : Option String) : Backend :=
  { b with
    bearer := (token.map fun t => String.ofList (Text.trim t.toList)).filter (!·.isEmpty) }

def headers (b : Backend) : List (String × String) :=
  ("accept", "application/json") :: (b.apiKey.map ("x-api-key", ·)).toList ++
    (b.bearer.map fun t => ("authorization", "Bearer " ++ t)).toList

structure Exchange (α : Type) where
  request : Request
  read : Reply → Except Problem α

/-- A request with the credentials; it is not made if a header cannot hold them, or if the address
is not one of the web. -/
def request (b : Backend) (method : Method) (a : Address) (upload : Option Upload) :
    Except Problem Request :=
  if !b.bearer.all isHeaderValue then .error (.exchange "builder error")
  else if a.scheme ≠ "http" ∧ a.scheme ≠ "https" then
    .error (.exchange s!"builder error for url ({a.text})")
  else .ok ⟨method, a, b.headers, upload⟩

def readDetail (found : Option (Option String)) (key : String) (j : Json) :
    Except Fault (Option (Option String)) :=
  if key = "detail" then
    if found.isSome then .error (.duplicate key)
    else do return some (← optionalString j)
  else do
    ignored j
    return found

/-- The detail in a JSON tree, an object or an array of one item. -/
def detailOfJson : Json → Except Fault (Option String)
  | .object members closed => do return (← foldMembers readDetail closed none members).getD none
  | .array items closed => do
    match ← nextItem closed items with
    | (none, _) => .error .grammar
    | (some j, items) => do
      let detail ← optionalString j
      noMoreItems closed items
      return detail
  | j => Json.mismatch (.record "ErrorResponse") j

def detail? (s : String) : Option String :=
  match readText detailOfJson s with
  | .ok d => d
  | .error _ => none

variable [Charsets] [Wording]

/-- The detail that a reply tells; a body that cannot be read tells none. -/
def told? (r : Reply) : Option String := detail? (r.text.toOption.getD "")

/-- The reply if it reports success; `otherwise` stands in for a detail that is not told. -/
def succeed (otherwise : String) (r : Reply) : Except Problem Reply :=
  if isSuccess r.status then .ok r else .error (.refused r.status ((told? r).getD otherwise))

def planOfBytes (bytes : List UInt8) : Except Problem Plan :=
  match readBytes Plan.ofJson bytes with
  | .ok p => .ok p
  | .error e => .error (.json (Wording.message "TestPlan" bytes e))

def fetchFailure : String := "Failed to fetch test plan."

def executeFailure : String := "Failed to execute script."

def readPlan (r : Reply) : Except Problem Plan := do
  planOfBytes (← (← succeed fetchFailure r).body.bytes)

def readOutput (r : Reply) : Except Problem (List Log.Entry) := do
  return Output.entries (← (← succeed executeFailure r).text)

def fetchPlan (b : Backend) (testCase : String) : Except Problem (Exchange Plan) := do
  let a ← b.resolver.httpAddress "TestPlan" [("testCaseId", testCase)]
  return ⟨← b.request .get a none, readPlan⟩

def scriptFile (testCase script : String) : Upload :=
  ⟨testCase ++ "_script.py", "text/x-python", script⟩

def executeScript (b : Backend) (testCase script : String) (kind : ScriptKind) :
    Except Problem (Exchange (List Log.Entry)) := do
  let a ← b.resolver.httpAddress "ExecuteCode" [("script_type", kind.name)]
  return ⟨← b.request .post a (some (scriptFile testCase script)), readOutput⟩

end Backend

end Testbed
