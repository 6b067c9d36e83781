import Testbed.Plan
import Testbed.Runner
import Testbed.Toml.Reader

/-!
# Settings

Where the backend is, how long to wait, and which engine scripts are for. Settings come from a TOML
text; what it leaves out has a default.
-/

namespace Testbed

structure ApiSettings where
  baseAddress : String := "http://127.0.0.1:8002/"
  /-- The key that goes along with every request. -/
  apiKey : Option String := none
  timeoutSeconds : Nat := 100
  /-- Names and templates of endpoints, in the order of the text. -/
  endpoints : List (String × String) := []
  deriving Repr, DecidableEq

structure RunSettings where
  runTimeoutSeconds : Nat := 30
  closeTimeoutSeconds : Nat := 5
  scriptKind : ScriptKind := .playwright
  deriving Repr, DecidableEq

structure Settings where
  api : ApiSettings := {}
  run : RunSettings := {}
  deriving Repr, DecidableEq

namespace Settings

/-- The fields of a record: by name from a table, by position from an array. A date holds none. -/
def field? (name : String) (position : Nat) : Toml → Option (Option Toml)
  | .table es => some (Toml.find? name es)
  | .array items => some items[position]?
  | .dateTime _ => some none
  | _ => none

def string? : Toml → Option String
  | .string s => some s
  | _ => none

def seconds? : Toml → Option Nat
  | .integer n => if 0 ≤ n then some n.toNat else none
  | _ => none

def isEmptyBracket : Toml → Bool
  | .table [] => true
  | .array [] => true
  | _ => false

/-- A kind by its name, or as the only key of a table with nothing under it. -/
def scriptKind? : Toml → Option ScriptKind
  | .string s => ScriptKind.ofName? s
  | .table [(k, v)] => if isEmptyBracket v then ScriptKind.ofName? k else none
  | _ => none

/-- The key under which a date stands where a table is wanted. -/
def dateKey : String := "$__toml_private_datetime"

def endpoints? : Toml → Option (List (String × String))
  | .table es => es.mapM fun (k, v) => (string? v).map (k, ·)
  | .dateTime t => some [(dateKey, t)]
  | _ => none

/-- A field's value, or its default if the field is absent. -/
def fieldOr {α : Type} (read : Toml → Option α) (otherwise : α) (name : String) (position : Nat)
    (v : Toml) : Option α := do
  match ← field? name position v with
  | none => some otherwise
  | some w => read w

def readApi (v : Toml) : Option ApiSettings := do
  let usual : ApiSettings := {}
  return {
    baseAddress := ← fieldOr string? usual.baseAddress "base_url" 0 v
    apiKey := ← fieldOr (fun w => (string? w).map some) none "api_key" 1 v
    timeoutSeconds := ← fieldOr seconds? usual.timeoutSeconds "timeout_secs" 2 v
    endpoints := ← fieldOr endpoints? [] "endpoints" 3 v }

def readRun (v : Toml) : Option RunSettings := do
  let usual : RunSettings := {}
  return {
    runTimeoutSeconds := ← fieldOr seconds? usual.runTimeoutSeconds "run_timeout_secs" 0 v
    closeTimeoutSeconds := ← fieldOr seconds? usual.closeTimeoutSeconds "close_timeout_secs" 1 v
    scriptKind := ← fieldOr scriptKind? usual.scriptKind "default_script_kind" 2 v }

def ofToml (v : Toml) : Option Settings := do
  return {
    api := ← fieldOr readApi {} "api" 0 v
    run := ← fieldOr readRun {} "execution" 1 v }

def ofText (s : String) : Except Problem Settings :=
  match (Toml.ofText s).bind fun es => ofToml (.table es) with
  | some settings => .ok settings
  | none => .error (.settingsText "no valid settings")

def limits (s : Settings) : Session.Limits :=
  ⟨1000 * s.run.runTimeoutSeconds, 1000 * s.run.closeTimeoutSeconds⟩

def resolver (s : Settings) : Except Problem Resolver :=
  Resolver.ofBase (.ofDefinitions s.api.endpoints) s.api.baseAddress

end Settings

end Testbed
