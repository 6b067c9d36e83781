import Testbed.Backend
import Testbed.Files
import Testbed.Session

/-!
# Procedures

What a program asks of the world, step by step, until it exits: files, lines for a person, exchanges
with the backend, and streaming runs.
-/

namespace Testbed

/-- A streaming run as its observer sees it. The report is lost if the session could not begin. -/
structure Observation where
  events : List Session.Event
  report : Except Problem Session.Report

inductive Procedure where
  | exit (code : Nat)
  | print (text : String) (next : Procedure)
  | warn (text : String) (next : Procedure)
  | readFile (path : String) (next : Except FileFault String → Procedure)
  | writeFile (path content : String) (next : Except FileFault Unit → Procedure)
  | exchange (request : Http.Request) (next : Except Problem Http.Reply → Procedure)
  | stream (session : Session) (next : Observation → Procedure)

namespace Procedure

def fail (p : Problem) : Procedure := .warn s!"Error: {p.message}\n" (.exit 1)

def require {α : Type} (r : Except Problem α) (next : α → Procedure) : Procedure :=
  match r with
  | .ok a => next a
  | .error p => fail p

def printAll (texts : List String) (next : Procedure) : Procedure := texts.foldr .print next

def warnAll (texts : List String) (next : Procedure) : Procedure := texts.foldr .warn next

/-- Asks the backend, if the exchange comes about, and goes on with its result. -/
def ask {α : Type} (e : Except Problem (Backend.Exchange α)) (next : α → Procedure) : Procedure :=
  require e fun x => .exchange x.request fun reply => require (reply.bind x.read) next

def readText (path : String) (next : String → Procedure) : Procedure :=
  .readFile path fun
    | .ok content => next content
    | .error f => fail (.unreadable path f.message)

end Procedure

end Testbed
