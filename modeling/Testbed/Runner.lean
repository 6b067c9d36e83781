import Testbed.Session
import Testbed.Endpoint
import Testbed.Plan

/-!
# Runners

A runner starts sessions, one at a time: its gate is taken when a session starts and given back
when the session releases what it held.
-/

namespace Testbed

structure RunRequest where
  testCase : String
  kind : ScriptKind
  token : String
  deriving Repr, DecidableEq

structure Runner where
  resolver : Resolver
  limits : Session.Limits
  /-- Whether a session holds the runner. -/
  busy : Bool
  deriving Repr, DecidableEq

namespace Runner

def create (resolver : Resolver) (limits : Session.Limits) : Runner := ⟨resolver, limits, false⟩

def address (r : Runner) (q : RunRequest) : Except Problem Address :=
  r.resolver.streamAddress "ExecuteWs"
    [("testCaseId", q.testCase), ("script_type", q.kind.name)]

def take? (r : Runner) : Option Runner := if r.busy then none else some { r with busy := true }

def giveBack (r : Runner) : Runner := { r with busy := false }

/-- Asks for a session, which has the gate that is taken for it. A request without an address gives
the gate back. -/
def attempt (r : Runner) (q : RunRequest) : Runner × Except Problem Session :=
  match r.take? with
  | none => (r, .error .sessionActive)
  | some taken =>
    match taken.address q with
    | .error p => (taken.giveBack, .error p)
    | .ok a => (taken, .ok (.create a q.token taken.limits))

def start (r : Runner) (q : RunRequest) : Except Problem (Runner × Session) :=
  match r.attempt q with
  | (_, .error p) => .error p
  | (held, .ok s) => .ok (held, s)

/-- Every release gives the gate back. -/
def observe (r : Runner) (effects : List Session.Effect) : Runner :=
  effects.foldl (fun r e => if e = .event .released then r.giveBack else r) r

end Runner

end Testbed
