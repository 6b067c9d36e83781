import Testbed.Main
import Testbed.Proofs.Message.Received
import Testbed.Proofs.Rehearsal.Teardown
import Testbed.Proofs.Rehearsal.Timing
import Testbed.Proofs.Runner.Gate
import Testbed.Proofs.Runner.Teardown
import Testbed.Proofs.Runner.Transports
import Testbed.Proofs.Script.Literal
import Testbed.Proofs.Session.Errors
import Testbed.Proofs.Session.EventOrder
import Testbed.Proofs.Session.Verdict
import Testbed.World
import Testbed.Proofs.Script.Instruction
import Testbed.Proofs.Script.Layout
import Testbed.Proofs.Script.Printed
import Testbed.Proofs.Rehearsal.Life
import Testbed.Proofs.Rehearsal.Isolation
import Testbed.Proofs.Text.Percent
import Testbed.Proofs.Text.Lower
import Testbed.Proofs.Address.Reference
import Testbed.Proofs.Address.Base
import Testbed.Proofs.Endpoint.Target
import Testbed.Proofs.Command.Execution
import Testbed.Proofs.Endpoint.TestCase
import Testbed.Proofs.Endpoint.Stream
import Testbed.Proofs.Socket.Spelling
import Testbed.Proofs.Message.Spelling
import Testbed.Proofs.Plan.Payload
import Testbed.Proofs.Address.Blank
import Testbed.Proofs.Endpoint.Substitution
import Testbed.Proofs.Address.AddedSlash
import Testbed.Proofs.Endpoint.Relative
import Testbed.Proofs.Toml.Table
import Testbed.Proofs.Toml.Spelling
import Testbed.Proofs.Toml.Progress
import Testbed.Proofs.Toml.Statements
import Testbed.Proofs.Endpoint.Table
import Testbed.Proofs.Settings.Endpoints
import Testbed.Proofs.Log.RoundTrip
import Testbed.Proofs.Message.Verdict
import Testbed.Proofs.Transport.Credential
import Testbed.Proofs.Plan.Data
import Testbed.Proofs.Json.TokenText
import Testbed.Proofs.Json.Spelled
import Testbed.Proofs.Json.Place
import Testbed.Proofs.Plan.Accepted
import Testbed.Proofs.Plan.Scalar
import Testbed.Proofs.Backend.Refusal
import Testbed.Proofs.Toml.Range
import Testbed.Proofs.Settings.Deadline
import Testbed.Proofs.Endpoint.Encoding
