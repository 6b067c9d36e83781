import Testbed.Script.Rule
import Testbed.Text.Lines

/-!
# Scripts from plans

A plan becomes a script: a fixed prologue, a block for every step that a rule recognizes, and a
fixed epilogue. Steps without a rule add nothing and are reported.
-/

namespace Testbed.Script

def prologueLines : List String := [
  "import asyncio",
  "import re",
  "from playwright.async_api import async_playwright, expect",
  "",
  "async def run_test():",
  "    \"\"\"Test Case for current test ID.\"\"\"",
  "    async with async_playwright() as p:",
  "        browser = await p.chromium.launch(headless=False)",
  "        page = await browser.new_page()",
  "        try:"]

def epilogueLines : List String := [
  "            print(\"Test Passed - Execution completed successfully.\")",
  "        except Exception as e:",
  "            print(f\"Test Failed - An error occurred: \x7bstr(e)\x7d\")",
  "        finally:",
  "            await browser.close()",
  "",
  "if __name__ == \"__main__\":",
  "    asyncio.run(run_test())"]

def prologue : String := Text.unlines prologueLines

def epilogue : String := Text.unlines epilogueLines

inductive Treatment where
  | emitted (block : String)
  | skipped
  deriving Repr, DecidableEq

def skipReason : String := "no rule for this step phrase"

/-- The lines of a step, none if no rule lists its phrase. -/
def stepLines (s : Step) : List String :=
  match ruleFor? s.phrase with
  | some r => r.lines s.data
  | none => []

def treat (s : Step) : Treatment :=
  match ruleFor? s.phrase with
  | some r => .emitted (Text.unlines (r.lines s.data))
  | none => .skipped

def lines (p : Plan) : List String :=
  prologueLines ++ p.steps.flatMap stepLines ++ epilogueLines

def ofPlan (p : Plan) : String := Text.unlines (lines p)

def treatments (p : Plan) : List (Step × Treatment) := p.steps.map fun s => (s, treat s)

def isRecognized (s : Step) : Bool := (ruleFor? s.phrase).isSome

/-- The phrases of the steps that no rule recognizes, in order and with repeats. -/
def skipped (p : Plan) : List String :=
  (p.steps.filter (!isRecognized ·)).map Step.phrase

def emittedCount (p : Plan) : Nat := (p.steps.filter isRecognized).length

def ofPlanStrict (p : Plan) : Except Problem String :=
  match skipped p with
  | [] => .ok (ofPlan p)
  | phrases => .error (.unrecognizedSteps phrases)

end Testbed.Script
