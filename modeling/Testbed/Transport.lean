import Testbed.Json.Datum
import Testbed.Problem

/-!
# Transports

What goes over a streaming connection: one text with the credential first, then frames from the
other side until it closes.
-/

namespace Testbed

inductive Frame where
  | text (s : String)
  /-- A message that is no text, and why. -/
  | malformed (why : String)
  /-- The other side closes, with a code if it gave one. -/
  | close (code : Option Nat) (reason : String)
  deriving Repr, DecidableEq

/-- The close code with which a server refuses a credential. -/
def policyViolation : Nat := 1008

/-- The first text on a connection: a JSON object with the credential as its only member. -/
def authText (token : String) : String :=
  Json.Datum.text (.object [("token", .string token)])

end Testbed
