import Testbed.Command.Line
import Testbed.Command.Procedure
import Testbed.Script
import Testbed.Settings

/-!
# Carrying out commands

The four commands as procedures: compiling a plan into a script, streaming a run, executing a script
through the backend, and showing where an endpoint is.
-/

namespace Testbed.Procedure

open Command

def entryLine (clock : String) (e : Log.Entry) : String := e.line clock ++ "\n"

def skipLine (phrase : String) : String := s!"! No rule for step: {phrase}\n"

def strangerLine (key : String) : String :=
  s!"! No endpoint named '{key}'; using it as a literal path\n"

def writtenLine (path : String) : String := s!"✓ Script written to {path}\n"

def reportLine (r : Session.Report) : String :=
  let mark := if r.outcome.isSuccess then "✓" else "✗"
  s!"\n{mark} Run {r.outcome.text} (session {r.state.text})\n"

def exitCode (ok : Bool) : Nat := if ok then 0 else 1

def logsOf (es : List Session.Event) : List Log.Entry :=
  es.filterMap fun
    | .log e => some e
    | _ => none

def backend (s : Settings) (token : Option String) : Except Problem Backend := do
  return (← Backend.create (← s.resolver) s.api.apiKey).withBearer token

variable [Http.Charsets] [Json.Wording]

def withPlan (s : Settings) (token : Option String) (next : Plan → Procedure) : Source → Procedure
  | .file path => readText path fun content => require (Plan.ofText content) next
  | .backend testCase =>
    require (backend s token) fun b => ask (b.fetchPlan testCase) next

def deliver (output : Option String) (script : String) : Procedure :=
  match output with
  | none => .print script (.exit 0)
  | some path =>
    .writeFile path script fun
      | .ok () => .warn (writtenLine path) (.exit 0)
      | .error f => fail (.io f.message)

def scriptOf (strict : Bool) (p : Plan) : Except Problem String :=
  if strict then Script.ofPlanStrict p else .ok (Script.ofPlan p)

def warnSkipped (p : Plan) (next : Procedure) : Procedure :=
  warnAll ((Script.skipped p).map skipLine) next

def compile (s : Settings) (source : Source) (output : Option String) (strict : Bool)
    (token : Option String) : Procedure :=
  source |> withPlan s token fun p =>
    warnSkipped p (require (scriptOf strict p) (deliver output))

def run (clock : String) (s : Settings) (q : RunRequest) : Procedure :=
  require s.resolver fun r =>
    require ((Runner.create r s.limits).start q) fun (_, session) =>
      .stream session fun o =>
        printAll ((logsOf o.events).map (entryLine clock))
          (require o.report fun report =>
            .print (reportLine report) (.exit (exitCode report.outcome.isSuccess)))

def execute (clock : String) (s : Settings) (testCase : String) (kind : ScriptKind)
    (token : String) : Procedure :=
  require (backend s (some token)) fun b =>
    ask (b.fetchPlan testCase) fun p =>
      warnSkipped p
        (ask (b.executeScript testCase (Script.ofPlan p) kind) fun entries =>
          printAll (entries.map (entryLine clock))
            (.exit (exitCode (!entries.any (·.isError)))))

def resolve (s : Settings) (key : String) (params : List (String × String)) : Procedure :=
  require s.resolver fun r =>
    let strange := if (r.table.template? key).isNone then [strangerLine key] else []
    warnAll strange
      (.print (r.resolve key params ++ "\n")
        (require (r.httpAddress key params) fun a => .print (a.text ++ "\n") (.exit 0)))

/-- The procedure of a command. Entries of the present moment are shown with the clock's text. -/
def ofCommand (clock : String) (s : Settings) : Command → Procedure
  | .compile source output strict token => compile s source output strict token
  | .run testCase kind token => run clock s ⟨testCase, kind.getD s.run.scriptKind, token⟩
  | .execute testCase kind token =>
    execute clock s testCase (kind.getD s.run.scriptKind) token
  | .resolve key params => resolve s key params

/-- Goes on with the settings in a file that must be there, or in the usual file, which need not be
there. -/
def withSettings (usual : Option String) (path : Option String) (next : Settings → Procedure) :
    Procedure :=
  match path, usual with
  | some path, _ => readText path fun content => require (Settings.ofText content) next
  | none, none => next {}
  | none, some path =>
    .readFile path fun
      | .ok content => require (Settings.ofText content) next
      | .error f => if f.isAbsence then next {} else fail (.unreadable path f.message)

def versionText : String := "bddrun 0.1.0\n"

def helpText : String := Text.unlines [
  "Compile and run BDD test plans",
  "",
  "Usage: bddrun [--config PATH] [--verbose] COMMAND",
  "",
  "Commands:",
  "  compile [TEST_CASE_ID] [--plan PATH] [--output PATH] [--strict] [--token TOKEN]",
  "  run TEST_CASE_ID [--script-kind playwright|selenium] --token TOKEN",
  "  execute TEST_CASE_ID [--script-kind playwright|selenium] --token TOKEN",
  "  resolve KEY [--param NAME=VALUE]..."]

/-- The environment of a program: its clock, the usual file of settings, and a credential. -/
structure Environment where
  clock : String
  settingsPath : Option String
  token : Option String

def ofArguments (env : Environment) (args : List String) : Procedure :=
  match Command.ofArguments env.token args with
  | .error .version => .print versionText (.exit 0)
  | .error .help => .print helpText (.exit 0)
  | .error (.misuse m) => .warn s!"error: {m.message}\n" (.exit 2)
  | .ok i => withSettings env.settingsPath i.settingsPath (ofCommand env.clock · i.command)

end Testbed.Procedure
