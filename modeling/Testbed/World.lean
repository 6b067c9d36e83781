import Testbed.Command.Procedure
import Testbed.Network

/-!
# Worlds

A world in which a procedure can be carried out: files, a network, and a clock that counts seconds
in a signed number of 64 bits. Where nothing else is said, its clients know UTF-8 only.
-/

namespace Testbed

instance (priority := low) : Http.Charsets := .utf8

structure World where
  files : Files
  network : Network
  /-- Milliseconds since the origin of the clock. -/
  clock : Nat

structure Trace where
  code : Nat
  out : String
  err : String
  requests : List Http.Request
  heard : List Socket.Heard
  files : Files

variable [Json.Wording]

namespace Observation

/-- The problem of a session whose deadline the clock cannot show. -/
def lostSession : Problem :=
  .internal "session task failed: overflow when adding duration to instant"

/-- What is observed of a session that begins at a time and connects to a peer. One whose deadline
the clock cannot show is given up at once. -/
def ofPeer (p : Socket.Peer) (now : Nat) (s : Session) : Observation :=
  match Session.deadline? now s.limits with
  | none => ⟨Session.eventsOf s.abandon.effects, .error lostSession⟩
  | some _ =>
    let (effects, report) := p.run s
    ⟨Session.eventsOf effects, match report with
      | some r => .ok r
      | none => .error (.internal "session did not end")⟩

end Observation

def World.observe (w : World) (s : Session) : Observation := .ofPeer w.network.peer w.clock s

def Procedure.trace : Procedure → World → Trace
  | .exit code, w => ⟨code, "", "", [], [], w.files⟩
  | .print text next, w =>
    let t := next.trace w
    { t with out := text ++ t.out }
  | .warn text next, w =>
    let t := next.trace w
    { t with err := text ++ t.err }
  | .readFile path next, w => (next (w.files.read path)).trace w
  | .writeFile path content next, w =>
    match w.files.write path content with
    | .ok files => (next (.ok ())).trace { w with files := files }
    | .error f => (next (.error f)).trace w
  | .exchange request next, w =>
    let (reply, network) := w.network.answer request
    let t := (next reply).trace { w with network := network }
    { t with requests := w.network.received request ++ t.requests }
  | .stream session next, w =>
    let t := (next (w.observe session)).trace w
    { t with heard := w.network.peer.heard session ++ t.heard }

end Testbed
