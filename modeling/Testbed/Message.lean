import Testbed.Log

/-!
# Messages of a run

What the backend streams while a test runs: log entries, and the status of the whole run. Every
message is either one that lets the run go on or one that decides it.
-/

namespace Testbed

structure Message where
  testCase : Option String
  scriptType : Option String
  status : Option String
  logs : List Log.Entry
  deriving Repr, DecidableEq

namespace Message

open Json Log

structure Fields where
  testCase : Option (Option String) := none
  scriptType : Option (Option String) := none
  status : Option (Option String) := none
  logs : Option (List Entry) := none

def Fields.message (f : Fields) : Message :=
  ⟨f.testCase.getD none, f.scriptType.getD none, f.status.getD none, f.logs.getD []⟩

def readEntries (closed : Bool) : List Json → Except Fault (List Entry)
  | [] => do closing closed; return []
  | j :: r => do
    let e ← Entry.ofJson j
    let es ← readEntries closed r
    return e :: es

def readLogs : Json → Except Fault (List Entry)
  | .null => .ok []
  | .array items closed => readEntries closed items
  | j => Json.mismatch .sequence j

def readField (f : Fields) (key : String) (j : Json) : Except Fault Fields :=
  if key = "testcaseid" then
    if f.testCase.isSome then .error (.duplicate key)
    else do return { f with testCase := some (← optionalString j) }
  else if key = "script_type" then
    if f.scriptType.isSome then .error (.duplicate key)
    else do return { f with scriptType := some (← optionalString j) }
  else if key = "status" then
    if f.status.isSome then .error (.duplicate key)
    else do return { f with status := some (← optionalString j) }
  else if key = "logs" then
    if f.logs.isSome then .error (.duplicate key)
    else do return { f with logs := some (← readLogs j) }
  else do
    ignored j
    return f

def readItem : Option Json → Except Fault (Option String)
  | none => .ok none
  | some j => optionalString j

/-- The message in a JSON tree, an object or an array of the four fields; `null` is no message. -/
def ofJson : Json → Except Fault (Option Message)
  | .null => .ok none
  | .object members closed => do
    return some (← foldMembers readField closed {} members).message
  | .array items closed => do
    let (first, items) ← nextItem closed items
    let testCase ← readItem first
    let (second, items) ← nextItem closed items
    let scriptType ← readItem second
    let (third, items) ← nextItem closed items
    let status ← readItem third
    let (fourth, items) ← nextItem closed items
    let logs ← match fourth with
      | none => pure []
      | some j => readLogs j
    noMoreItems closed items
    return some ⟨testCase, scriptType, status, logs⟩
  | j => Json.mismatch (.record "ExecutionResponse") j

end Message

inductive Ending where
  | completed
  | failed
  deriving Repr, DecidableEq

def Ending.ofStatus? (s : String) : Option Ending :=
  let u := Text.asciiUpper s
  if u = "COMPLETED" then some .completed
  else if u = "FAILED" then some .failed
  else none

inductive Verdict where
  | goOn
  /-- A log entry is an error. -/
  | failedByLog
  | ended (e : Ending)
  /-- The message is `null`. -/
  | violation
  | malformed (why : String)
  deriving Repr, DecidableEq

/-- The entries a message adds to the log, and its verdict. -/
structure Reading where
  entries : List Log.Entry
  verdict : Verdict
  deriving Repr, DecidableEq

namespace Reading

open Log

/-- The entry that repeats the status which ended a run. -/
def summary (status : String) : Entry :=
  .ofNow (.other status) ("Execution " ++ Text.lower status)

/-- An error among the entries decides before the status does. -/
def ofMessage (m : Message) : Reading :=
  if m.logs.any Entry.isError then ⟨m.logs, .failedByLog⟩
  else match m.status with
    | none => ⟨m.logs, .goOn⟩
    | some s =>
      match Ending.ofStatus? s with
      | none => ⟨m.logs, .goOn⟩
      | some e => ⟨m.logs ++ [summary s], .ended e⟩

def empty : Reading :=
  ⟨[.ofNow .error "Received empty or invalid execution response"], .violation⟩

def ofFault (why : String) : Reading := ⟨[.problem (.malformedMessage why)], .malformed why⟩

def ofText [Json.Wording] (s : String) : Reading :=
  match Json.readText Message.ofJson s with
  | .error f => ofFault (f.told "ExecutionResponse" s)
  | .ok none => empty
  | .ok (some m) => ofMessage m

end Reading

end Testbed
