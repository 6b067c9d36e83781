import Testbed.Backend
import Testbed.Socket

/-!
# The network

What answers the requests and connections of one program: a server with its replies in order and
its behaviour on a streaming connection, or nobody.
-/

namespace Testbed

inductive Network where
  | unreachable
  | server (replies : List Http.Reply) (peer : Socket.Peer)
  deriving Repr, DecidableEq

namespace Network

def sendFailure (q : Http.Request) : Problem :=
  .exchange s!"error sending request for url ({q.address.text})"

def answer (n : Network) (q : Http.Request) : Except Problem Http.Reply × Network :=
  match n with
  | .server (r :: rs) peer => (.ok r, .server rs peer)
  | n => (.error (sendFailure q), n)

def received (n : Network) (q : Http.Request) : List Http.Request :=
  match n with
  | .unreachable => []
  | .server .. => [q]

def peer : Network → Socket.Peer
  | .unreachable => .unreachable
  | .server _ p => p

/-- Carries out an exchange with the backend, if it comes about: its result, the requests that a
server received, and the network that is left. -/
def perform {α : Type} (n : Network) (e : Except Problem (Backend.Exchange α)) :
    Except Problem α × List Http.Request × Network :=
  match e with
  | .error p => (.error p, [], n)
  | .ok x =>
    let (reply, n') := n.answer x.request
    (reply.bind x.read, n.received x.request, n')

end Network

end Testbed
