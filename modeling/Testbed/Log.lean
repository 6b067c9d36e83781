import Testbed.Json.Datum
import Testbed.Text.Lines
import Testbed.Text.Lower
import Testbed.Problem

/-!
# Run logs

An entry of a run's log has a time, a message and a status. Four statuses have names that are read
in any letter case; any other spelling is kept as it is.
-/

namespace Testbed.Log

inductive Status where
  | info
  | debug
  | success
  | error
  | other (spelling : String)
  deriving Repr, DecidableEq

def Status.ofText (s : String) : Status :=
  let u := Text.asciiUpper s
  if u = "INFO" then .info
  else if u = "DEBUG" then .debug
  else if u = "SUCCESS" then .success
  else if u = "ERROR" then .error
  else .other s

def Status.text : Status → String
  | .info => "INFO"
  | .debug => "DEBUG"
  | .success => "SUCCESS"
  | .error => "ERROR"
  | .other s => s

def Status.isError : Status → Bool
  | .error => true
  | _ => false

/-- When an entry was made: at the moment the program wrote it, or as a message says. -/
inductive Stamp where
  | now
  | given (text : String)
  deriving Repr, DecidableEq

def Stamp.text (clock : String) : Stamp → String
  | .now => clock
  | .given s => s

structure Entry where
  stamp : Stamp
  message : String
  status : Status
  deriving Repr, DecidableEq

namespace Entry

open Json

def ofNow (status : Status) (message : String) : Entry := ⟨.now, message, status⟩

def info (message : String) : Entry := ofNow .info message

def debug (message : String) : Entry := ofNow .debug message

def problem (p : Problem) : Entry := ofNow .error p.message

def isError (e : Entry) : Bool := e.status.isError

structure Fields where
  timestamp : Option String := none
  message : Option String := none
  status : Option Status := none

def Fields.entry (f : Fields) : Entry :=
  ⟨.given (f.timestamp.getD ""), f.message.getD "", f.status.getD .info⟩

def readText (j : Json) : Except Fault String := do return (← optionalString j).getD ""

def readStatus (j : Json) : Except Fault Status := do
  return ((← optionalString j).map Status.ofText).getD .info

def readField (f : Fields) (key : String) (j : Json) : Except Fault Fields :=
  if key = "timestamp" then
    if f.timestamp.isSome then .error (.duplicate key)
    else do return { f with timestamp := some (← readText j) }
  else if key = "message" then
    if f.message.isSome then .error (.duplicate key)
    else do return { f with message := some (← readText j) }
  else if key = "status" then
    if f.status.isSome then .error (.duplicate key)
    else do return { f with status := some (← readStatus j) }
  else do
    ignored j
    return f

/-- The entry in a JSON tree, an object or an array of the three fields. -/
def ofJson : Json → Except Fault Entry
  | .object members closed => do return (← foldMembers readField closed {} members).entry
  | .array items closed => do
    let (first, items) ← nextItem closed items
    let timestamp ← match first with
      | none => pure ""
      | some j => readText j
    let (second, items) ← nextItem closed items
    let message ← match second with
      | none => pure ""
      | some j => readText j
    let (third, items) ← nextItem closed items
    let status ← match third with
      | none => pure .info
      | some j => readStatus j
    noMoreItems closed items
    return ⟨.given timestamp, message, status⟩
  | j => Json.mismatch (.record "LogEntry") j

def ofText [Wording] (s : String) : Except Problem Entry :=
  match Json.readText ofJson s with
  | .ok e => .ok e
  | .error f => .error (.json (f.told "LogEntry" s))

def json (clock : String) (e : Entry) : String :=
  let field (name value : String) : List Char := quote name ++ ':' :: quote value
  String.ofList ('\x7b' :: (field "timestamp" (e.stamp.text clock) ++
    ',' :: (field "message" e.message ++ ',' :: (field "status" e.status.text ++ ['\x7d']))))

def line (clock : String) (e : Entry) : String :=
  s!"{e.stamp.text clock} [{Text.padLeft 9 e.status.text}] {e.message}"

end Entry

end Testbed.Log
