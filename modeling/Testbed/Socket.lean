import Testbed.Http.Message
import Testbed.Rehearsal

/-!
# WebSocket connections

The messages of a connection as frames, the answers to an upgrade request, and how a peer that sends
certain messages behaves towards a session. Pings and pongs are no frames, and a binary message
counts as the text that its bytes are.
-/

namespace Testbed.Socket

inductive Message where
  | text (s : String)
  | binary (bytes : List UInt8)
  | ping (payload : String)
  | pong (payload : String)
  | close (code : Option Nat) (reason : String)
  deriving Repr, DecidableEq

def binaryFrame (bytes : List UInt8) : Frame :=
  match Text.Utf8.decode bytes with
  | .ok cs => .text (String.ofList cs)
  | .error (i, f) => .malformed s!"binary message is not UTF-8 ({f.message i})"

/-- The frame that a message brings, if it brings one. -/
def Message.frame? : Message → Option Frame
  | .text s => some (.text s)
  | .binary bytes => some (binaryFrame bytes)
  | .ping _ | .pong _ => none
  | .close code reason => some (.close code reason)

inductive Arrival where
  | message (m : Message)
  /-- The connection breaks without a closing message. -/
  | reset
  deriving Repr, DecidableEq

inductive Peer where
  | unreachable
  /-- Answers the upgrade with a status. -/
  | refuses (status : Nat)
  /-- Accepts the upgrade, waits for the first text, and then sends. -/
  | sends (arrivals : List Arrival)
  deriving Repr, DecidableEq

def authorization (token : String) : String := "Bearer " ++ token

def noRoute : Problem :=
  .connectionFailed "IO error: Network is unreachable (os error 101)"

def resetText : String :=
  "WebSocket protocol error: Connection reset without closing handshake"

def refusal (status : Nat) : Problem :=
  let why := "server answered " ++ Http.statusText status
  if status = 401 ∨ status = 403 then .credentialRejected why else .connectionFailed why

/-- Opens a connection. The credential is looked at before the peer is sought, and once more before
it is sent. -/
def Peer.dial (p : Peer) (token : String) : Except Problem Unit :=
  if !Http.isHeaderValue (authorization token) then
    .error (.credentialRejected s!"credential is not a valid header: {Http.badHeader}")
  else if p = .unreachable then .error noRoute
  else if token.toList.any (128 ≤ ·.toNat) then
    .error (.connectionFailed "UTF-8 encoding error")
  else match p with
    | .refuses status => .error (refusal status)
    | _ => .ok ()

def Arrival.delivery? : Arrival → Option Rehearsal.Delivery
  | .message m => m.frame?.map .frame
  | .reset => some (.problem (.transport resetText))

/-- Whether the connection breaks before the peer closes it. -/
def breaks : List Arrival → Bool
  | [] => false
  | .reset :: _ => true
  | .message (.close ..) :: _ => false
  | .message _ :: r => breaks r

def closeResult (arrivals : List Arrival) : Except Problem Unit :=
  if breaks arrivals then .error (.closeFailed resetText) else .ok ()

/-- The connection to a peer, as a script without delays. -/
def Peer.connection (p : Peer) (token : String) : Rehearsal.Connection :=
  let arrivals : List Arrival := match p with
    | .sends arrivals => arrivals
    | _ => []
  { connect := ⟨0, some (p.dial token)⟩
    close := ⟨0, some (closeResult arrivals)⟩
    cues := (arrivals.filterMap Arrival.delivery?).map (⟨0, ·⟩) }

/-- A whole run with a peer, from a start whose deadline the clock shows: what its session did, and
how it ended. -/
def Peer.run [Json.Wording] (p : Peer) (s : Session) :
    List Session.Effect × Option Session.Report :=
  let (r, records) := Rehearsal.Run.opened 0 s.limits.run (p.connection s.token) s
  let (r, records') := r.complete
  ((records ++ records').map Rehearsal.Record.effect, r.session.report?)

inductive Heard where
  | upgrade (target authorization : String)
  | text (s : String)
  | close (code : Nat) (reason : String)
  deriving Repr, DecidableEq

/-- Whether the peer gets to see the upgrade request. -/
def Peer.hearsUpgrade (p : Peer) (token : String) : Bool :=
  match p, p.dial token with
  | .unreachable, _ => false
  | _, .ok () => true
  | .refuses status, .error problem => problem = refusal status
  | _, .error _ => false

def closedByPeer : Session.Outcome → Bool
  | .closedByServer | .credentialRejected => true
  | _ => false

/-- What the peer hears of one thing that the session does. -/
def Peer.hear (p : Peer) (peerCloses : Bool) : Session.Effect → Option Heard
  | .call (.connect a token) =>
    if p.hearsUpgrade token then
      let value := (authorization token).toList
      some (.upgrade a.target (String.ofList (Text.trimEnd value)))
    else none
  | .call (.send s) => some (.text s)
  | .call .close => if peerCloses then none else some (.close 1000 "Client closing")
  | _ => none

/-- All that the peer hears of a run. An answer to its own close is not counted. -/
def Peer.heard [Json.Wording] (p : Peer) (s : Session) : List Heard :=
  let (effects, report) := p.run s
  effects.filterMap (p.hear ((report.map (closedByPeer ·.outcome)).getD false))

end Testbed.Socket
