/-!
# What can go wrong

Every cause for which an operation gives no result, and the sentence that tells a person.
-/

namespace Testbed

inductive Problem where
  | sessionActive
  | connectionFailed (why : String)
  | credentialRejected (why : String)
  | transport (why : String)
  | malformedMessage (why : String)
  | timedOut (seconds : Nat)
  | cancelled
  | closeFailed (why : String)
  /-- The backend answered with a status that is no success. -/
  | refused (status : Nat) (message : String)
  | exchange (why : String)
  | badAddress (address : String) (why : String)
  | unrecognizedSteps (phrases : List String)
  | settings (why : String)
  | settingsText (why : String)
  | io (why : String)
  | unreadable (path : String) (why : String)
  | json (why : String)
  | internal (why : String)
  deriving Repr, DecidableEq

def Problem.message : Problem → String
  | .sessionActive =>
    "An execution session is already active. Wait for it to finish or abort it first"
  | .connectionFailed why => s!"Connection failed: {why}"
  | .credentialRejected why => s!"Authentication rejected: {why}"
  | .transport why => s!"Connection error: {why}"
  | .malformedMessage why => s!"JSON parsing error: {why}"
  | .timedOut seconds =>
    s!"Execution timed out after {seconds} seconds. Server may be unresponsive"
  | .cancelled => "Execution cancelled"
  | .closeFailed why => s!"Error closing connection: {why}"
  | .refused status message => s!"{message} (HTTP {status})"
  | .exchange why => s!"HTTP error: {why}"
  | .badAddress address why => s!"Invalid URL '{address}': {why}"
  | .unrecognizedSteps phrases =>
    s!"Test plan has {phrases.length} unrecognized step(s): " ++ "; ".intercalate phrases
  | .settings why => s!"Configuration error: {why}"
  | .settingsText why => s!"Invalid configuration file: {why}"
  | .io why => s!"IO error: {why}"
  | .unreadable path why => s!"Failed to read file '{path}': {why}"
  | .json why => s!"JSON error: {why}"
  | .internal why => s!"Internal error: {why}"

end Testbed
