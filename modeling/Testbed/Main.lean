import Std.Time.Format
import Testbed.Command.Perform
import Testbed.World

/-!
# The program

Carries out a procedure with the files and the output of this machine. It opens no connection: to
the program every server is out of reach.
-/

namespace Testbed.Program

/-- The fault with a number of the operating system, which may be given as a negative one. -/
def codedFault (code : UInt32) (text : String) : FileFault :=
  let n := if code.toNat < Nat.pow 2 31 then code.toNat else Nat.pow 2 32 - code.toNat
  if n = 2 then .missing
  else if n = 20 then .notDirectory
  else if n = 21 then .isDirectory
  else if n = 36 then .nameTooLong
  else .other s!"{text.capitalize} (os error {n})"

/-- What an error of the file system means to a procedure. -/
def faultOf (e : IO.Error) : FileFault :=
  match e with
  | .noFileOrDirectory .. => .missing
  | .permissionDenied _ code text => codedFault code text
  | .inappropriateType _ code text => codedFault code text
  | .invalidArgument _ code text => codedFault code text
  | .resourceExhausted _ code text => codedFault code text
  | .otherError code text => codedFault code text
  | e => .other (toString e)

def tryIO {α : Type} (action : IO α) : IO (Except FileFault α) := do
  match ← action.toBaseIO with
  | .ok a => return .ok a
  | .error e => return .error (faultOf e)

/-- Carries out a procedure; the result is the exit code. -/
def carryOut : Procedure → IO UInt32
  | .exit code => return code.toUInt32
  | .print text next => do
    (← IO.getStdout).putStr text
    carryOut next
  | .warn text next => do
    (← IO.getStderr).putStr text
    carryOut next
  | .readFile path next => do carryOut (next (← tryIO (IO.FS.readFile path)))
  | .writeFile path content next => do
    carryOut (next (← tryIO (IO.FS.writeFile path content)))
  | .exchange request next => carryOut (next (.error (Network.sendFailure request)))
  | .stream session next => do
    -- the peer of every session is out of reach
    carryOut (next (.ofPeer .unreachable (← IO.monoMsNow) session))

/-- The usual file of settings, in the directory for configuration. -/
def settingsPath : IO (Option String) := do
  let below (directory : String) : String := directory ++ "/bddrun/config.toml"
  match ← IO.getEnv "XDG_CONFIG_HOME", ← IO.getEnv "HOME" with
  | some home, fallback =>
    if "/".isPrefixOf home then return some (below home)
    else return fallback.map fun h => below (h ++ "/.config")
  | none, fallback => return fallback.map fun h => below (h ++ "/.config")

def clockText : IO String := do
  return (← Std.Time.PlainDateTime.now).format "uuuu-MM-dd'T'HH:mm:ss"

end Testbed.Program

open Testbed in
def main (args : List String) : IO UInt32 := do
  let environment : Procedure.Environment :=
    { clock := ← Program.clockText
      settingsPath := ← Program.settingsPath
      token := ← IO.getEnv "BDDRUN_TOKEN" }
  Program.carryOut (Procedure.ofArguments environment args)
