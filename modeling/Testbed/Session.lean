import Testbed.Address.Basic
import Testbed.Message
import Testbed.Transport

/-!
# Sessions

A session drives one streaming run: it connects, hands over the credential, reads messages until
one decides the run, and closes. It is a machine that answers signals, the replies of its transport
and of its clock, with effects: events that an observer sees and calls that reach the transport.
-/

namespace Testbed.Session

open Log (Entry)

inductive State where
  | idle
  | connecting
  | authenticating
  | streaming
  | closing
  | closed
  | failed
  deriving Repr, DecidableEq

def State.text : State → String
  | .idle => "idle"
  | .connecting => "connecting"
  | .authenticating => "authenticating"
  | .streaming => "streaming"
  | .closing => "closing"
  | .closed => "closed"
  | .failed => "failed"

def State.isTerminal : State → Bool
  | .closed | .failed => true
  | _ => false

inductive Outcome where
  | completed
  /-- The run failed by its status or by an error in its log. -/
  | failed
  | closedByServer
  | protocolError
  | connectionFailed
  | credentialRejected
  | transportError
  | timedOut
  | cancelled
  deriving Repr, DecidableEq

namespace Outcome

def text : Outcome → String
  | .completed => "completed"
  | .failed => "failed"
  | .closedByServer => "closed by server"
  | .protocolError => "protocol error"
  | .connectionFailed => "connection failed"
  | .credentialRejected => "authentication rejected"
  | .transportError => "connection error"
  | .timedOut => "timed out"
  | .cancelled => "cancelled"

def isSuccess : Outcome → Bool
  | .completed => true
  | _ => false

/-- Where a session with this outcome comes to rest, unless closing goes wrong. -/
def terminalState : Outcome → State
  | .completed | .failed | .closedByServer | .protocolError => .closed
  | _ => .failed

def ofProblem : Problem → Outcome
  | .connectionFailed _ | .badAddress .. => .connectionFailed
  | .credentialRejected _ => .credentialRejected
  | .timedOut _ => .timedOut
  | .cancelled => .cancelled
  | _ => .transportError

end Outcome

/-- What an observer sees. Nothing follows the release. -/
inductive Event where
  | state (s : State)
  | log (e : Entry)
  | released
  deriving Repr, DecidableEq

inductive Call where
  | connect (address : Address) (token : String)
  | send (text : String)
  | receive
  | close
  | drop
  deriving Repr, DecidableEq

inductive Effect where
  | event (e : Event)
  | call (c : Call)
  deriving Repr, DecidableEq

def eventsOf (es : List Effect) : List Event :=
  es.filterMap fun
    | .event e => some e
    | .call _ => none

/-- Limits of time, in milliseconds: for the run up to its decision, and for closing. -/
structure Limits where
  run : Nat := 30000
  close : Nat := 5000
  deriving Repr, DecidableEq

inductive Phase where
  | idle
  | connecting
  | sending
  | receiving
  | closing (outcome : Outcome) (peerClosed : Bool)
  | ended (outcome : Outcome)
  /-- Its task is gone before the run has ended. -/
  | lost
  deriving Repr, DecidableEq

inductive Signal where
  | connected
  | connectFailed (p : Problem)
  | sent
  | sendFailed (p : Problem)
  | received (f : Frame)
  /-- The connection is over without a close frame. -/
  | streamEnded
  | receiveFailed (p : Problem)
  | closed
  | closeFailed (p : Problem)
  | closeTimedOut
  | deadline
  | abort
  deriving Repr, DecidableEq

end Session

structure Session where
  address : Address
  token : String
  limits : Session.Limits
  phase : Session.Phase
  state : Session.State
  logs : List Log.Entry
  deriving Repr, DecidableEq

namespace Session

open Log (Entry)

def create (address : Address) (token : String) (limits : Limits) : Session :=
  ⟨address, token, limits, .idle, .idle, []⟩

def isEnded (s : Session) : Bool :=
  match s.phase with
  | .ended _ | .lost => true
  | _ => false

structure Report where
  state : State
  outcome : Outcome
  logs : List Entry
  deriving Repr, DecidableEq

def report? (s : Session) : Option Report :=
  match s.phase with
  | .ended outcome => some ⟨s.state, outcome, s.logs⟩
  | _ => none

/-- A session with what it has done since the last signal. -/
structure Move where
  session : Session
  effects : List Effect

namespace Move

def rest (s : Session) : Move := ⟨s, []⟩

def log (e : Entry) (m : Move) : Move :=
  ⟨{ m.session with logs := m.session.logs ++ [e] }, m.effects ++ [.event (.log e)]⟩

def logAll (es : List Entry) (m : Move) : Move := es.foldl (fun m e => m.log e) m

/-- Enters a state, which an observer sees unless the session is in it already. -/
def enter (st : State) (m : Move) : Move :=
  if m.session.state = st then m
  else ⟨{ m.session with state := st }, m.effects ++ [.event (.state st)]⟩

def call (c : Call) (m : Move) : Move := ⟨m.session, m.effects ++ [.call c]⟩

def await (p : Phase) (m : Move) : Move := ⟨{ m.session with phase := p }, m.effects⟩

/-- Releases what the run held and comes to rest. It is held no longer then, so that a further
release does nothing. -/
def release (p : Phase) (m : Move) : Move :=
  if m.session.isEnded then m
  else ⟨{ m.session with phase := p }, m.effects ++ [.event .released]⟩

/-- Comes to rest in a state. The end of the task is a release too. -/
def finish (outcome : Outcome) (st : State) (m : Move) : Move :=
  ((m.enter st).release (.ended outcome)).release .lost

/-- Ends the run for a problem; nothing can be closed. -/
def lose (p : Problem) (m : Move) : Move :=
  let outcome := Outcome.ofProblem p
  m.finish outcome outcome.terminalState

def decide (outcome : Outcome) (peerClosed : Bool) (m : Move) : Move :=
  ((m.enter .closing).call .close).await (.closing outcome peerClosed)

end Move

/-- What a rejected credential is said to be, when the server gives no reason. -/
def refusal (reason : String) : String :=
  if reason.isEmpty then "credential refused by server" else reason

/-- A frame is recorded and either lets the run go on or decides it. -/
def receiveFrame [Json.Wording] (f : Frame) (m : Move) : Move :=
  match f with
  | .text t =>
    let r := Reading.ofText t
    let m := (m.log (.debug s!"Raw message received: {t}")).logAll r.entries
    match r.verdict with
    | .goOn => m.call .receive
    | .failedByLog | .ended .failed => m.decide .failed false
    | .ended .completed => m.decide .completed false
    | .violation | .malformed _ => m.decide .protocolError false
  | .malformed why => (m.log (.problem (.malformedMessage why))).decide .protocolError false
  | .close code reason =>
    if code = some policyViolation then
      (m.log (.problem (.credentialRejected (refusal reason)))).decide .credentialRejected true
    else (m.log (.info "Connection closed by server")).decide .closedByServer true

/-- A problem while closing, said to be one of closing once. -/
def closingProblem : Problem → Problem
  | .closeFailed why => .closeFailed why
  | p => .closeFailed p.message

/-- The end of closing. What goes wrong after the other side has closed does not count. -/
def settleClose (outcome : Outcome) (peerClosed : Bool) (failure : Option Problem) (m : Move) :
    Move :=
  let m := m.call .drop
  match failure, peerClosed with
  | _, true => m.finish outcome outcome.terminalState
  | none, false =>
    (m.log (.info "Connection closed by client")).finish outcome outcome.terminalState
  | some p, false => (m.log (.problem (closingProblem p))).finish outcome .failed

/-- The problem of a close that was not acknowledged in time. -/
def closeTimeout (l : Limits) : Problem :=
  .closeFailed s!"no close acknowledgement within {l.close / 1000} seconds"

def clockSeconds : Nat := Nat.pow 2 63

/-- When a run that starts now must be decided, if the clock can show that time. -/
def deadline? (now : Nat) (l : Limits) : Option Nat :=
  if (now + l.run) / 1000 < clockSeconds then some (now + l.run) else none

theorem eq_of_deadline? {now d : Nat} {l : Limits} (h : deadline? now l = some d) :
    d = now + l.run := by
  unfold deadline? at h
  split at h
  · exact (Option.some.inj h).symm
  · cases h

/-- Thirty years, for which something is waited for whose end the clock cannot show. The last thirty
years of the clock, where even that end is not shown, are left out. -/
def farFuture : Nat := 30 * 365 * 86400000

/-- How long a session waits at most that begins to close now. -/
def closeWait (now : Nat) (l : Limits) : Nat :=
  if (now + l.close) / 1000 < clockSeconds then l.close else min l.close farFuture

theorem closeWait_le (now : Nat) (l : Limits) : closeWait now l ≤ l.close := by
  unfold closeWait
  split
  · exact Nat.le_refl _
  · exact Nat.min_le_left _ _

def runTimeout (l : Limits) : Problem := .timedOut (l.run / 1000)

def start (s : Session) : Move :=
  match s.phase with
  | .idle =>
    ((((Move.rest s).enter .connecting).log (.info s!"Connecting to {s.address.text}")).call
      (.connect s.address s.token)).await .connecting
  | _ => .rest s

/-- Cuts a run short before it is decided, even before it has begun. -/
def interrupt (p : Problem) (m : Move) : Move :=
  match m.session.phase with
  | .idle | .connecting => (m.log (.problem p)).lose p
  | .sending | .receiving => ((m.call .drop).log (.problem p)).lose p
  | _ => m

/-- Answers a signal; one that does not fit what the session waits for changes nothing. -/
def step [Json.Wording] (s : Session) (signal : Signal) : Move :=
  let m := Move.rest s
  match s.phase, signal with
  | .connecting, .connected =>
    ((m.enter .authenticating).call (.send (authText s.token))).await .sending
  | .connecting, .connectFailed p => (m.log (.problem p)).lose p
  | .sending, .sent =>
    ((((m.log (.info "Connected and token sent")).enter .streaming).call .receive).await .receiving)
  | .sending, .sendFailed p => ((m.log (.problem p)).call .drop).lose p
  | .receiving, .received f => receiveFrame f m
  | .receiving, .streamEnded =>
    let p := Problem.transport "connection ended without a close frame"
    ((m.log (.problem p)).call .drop).lose p
  | .receiving, .receiveFailed p => ((m.log (.problem p)).call .drop).lose p
  | .closing o c, .closed => settleClose o c none m
  | .closing o c, .closeFailed p => settleClose o c (some p) m
  | .closing o c, .closeTimedOut => settleClose o c (some (closeTimeout s.limits)) m
  | .closing o _, .abort => ((m.call .drop).log (.problem .cancelled)).finish o .failed
  | _, .deadline => interrupt (runTimeout s.limits) m
  | _, .abort => interrupt .cancelled m
  | _, _ => m

/-- Gives up a session whose task is gone: what it holds is let go, and there is no report. -/
def abandon (s : Session) : Move :=
  let m := Move.rest s
  match s.phase with
  | .sending | .receiving | .closing .. => (m.call .drop).release .lost
  | _ => m.release .lost

end Session

end Testbed
