import Testbed.Json.Datum
import Testbed.Problem

/-!
# Test plans

A plan lists the steps of one test case, each a phrase with its test data. It arrives as a JSON
object, or as an array of its two fields.
-/

namespace Testbed

inductive ScriptKind where
  | playwright
  | selenium
  deriving Repr, DecidableEq

def ScriptKind.name : ScriptKind → String
  | .playwright => "playwright"
  | .selenium => "selenium"

def ScriptKind.ofName? (s : String) : Option ScriptKind :=
  if s = "playwright" then some .playwright
  else if s = "selenium" then some .selenium
  else none

theorem ScriptKind.ofName?_name (k : ScriptKind) : ofName? k.name = some k := by
  cases k <;> decide

structure Step where
  phrase : String
  data : String
  deriving Repr, DecidableEq

structure Plan where
  testCase : Option String
  steps : List Step
  deriving Repr, DecidableEq

namespace Plan

open Json

/-- The test data that a value stands for: a string is itself, `null` is no text, and anything else
is its compact JSON. -/
def stepData : Datum → String
  | .null => ""
  | .string s => s
  | v => v.text

def readSteps : List Step → String → Json → Except Fault (List Step)
  | steps, phrase, j => do
    let v ← datum 3 j
    return steps ++ [⟨phrase, stepData v⟩]

/-- The steps of an object, in the order of the text and with its repeats. -/
def stepsOf : Json → Except Fault (List Step)
  | .null => .ok []
  | .object members closed => foldMembers readSteps closed [] members
  | j => Json.mismatch .map j

structure Fields where
  testCase : Option (Option String) := none
  steps : Option (List Step) := none

def Fields.plan (f : Fields) : Plan := ⟨f.testCase.getD none, f.steps.getD []⟩

def testCaseNames : List String := ["current testid", "current_testid"]

def stepsNames : List String := ["current - bdd steps", "current_bdd_steps"]

def readField (f : Fields) (key : String) (j : Json) : Except Fault Fields :=
  if key ∈ testCaseNames then
    if f.testCase.isSome then .error (.duplicate "current testid")
    else do return { f with testCase := some (← optionalString j) }
  else if key ∈ stepsNames then
    if f.steps.isSome then .error (.duplicate "current - bdd steps")
    else do return { f with steps := some (← stepsOf j) }
  else do
    ignored j
    return f

def ofJson : Json → Except Fault Plan
  | .object members closed => do return (← foldMembers readField closed {} members).plan
  | .array items closed => do
    let (first, items) ← nextItem closed items
    let testCase ← match first with
      | none => pure none
      | some j => optionalString j
    let (second, items) ← nextItem closed items
    let steps ← match second with
      | none => pure []
      | some j => stepsOf j
    noMoreItems closed items
    return ⟨testCase, steps⟩
  | j => Json.mismatch (.record "TestPlan") j

def ofText [Wording] (s : String) : Except Problem Plan :=
  match readText ofJson s with
  | .ok p => .ok p
  | .error e => .error (.json (e.told "TestPlan" s))

end Plan

end Testbed
