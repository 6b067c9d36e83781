import Testbed.Runner

/-!
# Rehearsals

Runs against scripted connections on a clock that moves only when told to. A script says what each
call is answered with and after how long; the sessions and the runner are the real ones. Where an
answer and an alarm fall on the same instant, the scripts here let the answer come first.
-/

namespace Testbed.Rehearsal

open Session (Signal Call Effect Move)

/-- The answer to a call: success or a problem after some milliseconds, or none at all. -/
structure Act where
  after : Nat := 0
  result : Option (Except Problem Unit) := some (.ok ())

inductive Delivery where
  | frame (f : Frame)
  | problem (p : Problem)
  | streamEnded

/-- A delivery, so many milliseconds after it was asked for. -/
structure Cue where
  after : Nat
  delivery : Delivery

/-- How one connection behaves. After the last cue nothing more is delivered. -/
structure Connection where
  connect : Act := {}
  send : Act := {}
  close : Act := {}
  cues : List Cue := []

/-- The connection of a runner whose scripts are used up. -/
def Connection.absent : Connection :=
  { connect := ⟨0, some (.error (.connectionFailed "no connection scripted"))⟩ }

structure Run where
  session : Session
  /-- The behaviour that is still to come. -/
  script : Connection
  /-- When the run must be decided. -/
  deadline : Nat
  /-- When closing must be done, once it has begun. -/
  closeBy : Option Nat
  /-- What the open call is answered with, and when. -/
  answer : Option (Nat × Signal)

def Act.signal? (a : Act) (now : Nat) (ok : Signal) (failed : Problem → Signal) :
    Option (Nat × Signal) :=
  match a.result with
  | none => none
  | some (.ok ()) => some (now + a.after, ok)
  | some (.error p) => some (now + a.after, failed p)

def Delivery.signal : Delivery → Signal
  | .frame f => .received f
  | .problem p => .receiveFailed p
  | .streamEnded => .streamEnded

/-- The run after a call has reached its transport. -/
def Run.place (now : Nat) (r : Run) : Call → Run
  | .connect .. =>
    { r with answer := r.script.connect.signal? now .connected .connectFailed }
  | .send _ => { r with answer := r.script.send.signal? now .sent .sendFailed }
  | .receive =>
    match r.script.cues with
    | [] => { r with answer := none }
    | c :: cs =>
      { r with
        answer := some (now + c.after, c.delivery.signal)
        script := { r.script with cues := cs } }
  | .close =>
    { r with
      answer := r.script.close.signal? now .closed .closeFailed
      closeBy := some (now + Session.closeWait now r.session.limits) }
  | .drop => { r with answer := none, closeBy := none }

def callsOf (es : List Effect) : List Call :=
  es.filterMap fun
    | .call c => some c
    | .event _ => none

def Run.follow (now : Nat) (r : Run) (m : Move) : Run :=
  (callsOf m.effects).foldl (Run.place now) { r with session := m.session }

/-- What the clock itself brings about: the deadline until the run is decided, then the end of the
wait for closing. -/
def Run.alarm? (r : Run) : Option (Nat × Signal) :=
  match r.session.phase with
  | .connecting | .sending | .receiving => some (r.deadline, .deadline)
  | .closing .. => r.closeBy.map (·, .closeTimedOut)
  | .idle | .ended _ | .lost => none

/-- The next signal and its time. Of an answer and an alarm at the same time either may come first;
here it is the answer. -/
def Run.next? (r : Run) : Option (Nat × Signal) :=
  match r.answer, r.alarm? with
  | some (t, s), some (t', s') => some (if t ≤ t' then (t, s) else (t', s'))
  | some a, none => some a
  | none, b => b

structure Record where
  time : Nat
  effect : Effect
  deriving DecidableEq

def recordsAt (now : Nat) (es : List Effect) : List Record := es.map (⟨now, ·⟩)

variable [Json.Wording]

def Run.deliver (now : Nat) (s : Signal) (r : Run) : Run × List Record :=
  let m := r.session.step s
  (r.follow now m, recordsAt now m.effects)

/-- At most so many signals can still reach the run. -/
def Run.potential (r : Run) : Nat := r.script.cues.length + 6

/-- Lets happen what is due up to a time, or up to the end of the run without one. -/
def Run.unfold (limit : Option Nat) : Nat → Run → Run × List Record
  | 0, r => (r, [])
  | fuel + 1, r =>
    match r.next? with
    | none => (r, [])
    | some (t, s) =>
      if limit.any (· < t) then (r, [])
      else
        let (r', es) := r.deliver t s
        let (r'', es') := r'.unfold limit fuel
        (r'', es ++ es')

def Run.advanceTo (time : Nat) (r : Run) : Run × List Record := r.unfold (some time) r.potential

def Run.complete (r : Run) : Run × List Record := r.unfold none r.potential

def Run.opened (now deadline : Nat) (script : Connection) (s : Session) : Run × List Record :=
  let r : Run := ⟨s, script, deadline, none, none⟩
  let m := s.start
  (r.follow now m, recordsAt now m.effects)

/-- A run that begins. If the clock cannot show its deadline it is lost at once. -/
def Run.begin (now : Nat) (script : Connection) (s : Session) : Run × List Record :=
  match Session.deadline? now s.limits with
  | some deadline => Run.opened now deadline script s
  | none => (⟨s.abandon.session, script, now, none, none⟩, recordsAt now s.abandon.effects)

end Rehearsal

open Rehearsal in
/-- A runner, the connections it has not used yet, and the runs it has started. -/
structure Rehearsal where
  clock : Nat
  runner : Runner
  connections : List Connection
  runs : List Run

namespace Rehearsal

def create (runner : Runner) (connections : List Connection) : Rehearsal :=
  ⟨0, runner, connections, []⟩

structure Sight where
  run : Nat
  record : Record
  deriving DecidableEq

def sightsOf (run : Nat) (rs : List Record) : List Sight := rs.map (⟨run, ·⟩)

/-- Puts a run that has moved in its place; the runner learns what it did. -/
def replace (h : Rehearsal) (i : Nat) (moved : Run × List Record) : Rehearsal × List Sight :=
  ({ h with
      runs := h.runs.set i moved.1
      runner := h.runner.observe (moved.2.map Record.effect) },
    sightsOf i moved.2)

/-- The connections that are left when a session has begun. One that is lost takes none. -/
def left (h : Rehearsal) (s : Session) : List Connection :=
  if (Session.deadline? h.clock s.limits).isSome then h.connections.tail else h.connections

variable [Json.Wording]

/-- Starts a run and lets happen what can happen at once. -/
def start (h : Rehearsal) (q : RunRequest) : Except Problem (Nat × Rehearsal × List Sight) :=
  match h.runner.start q with
  | .error p => .error p
  | .ok (runner, session) =>
    let (r, es) := Run.begin h.clock (h.connections.headD .absent) session
    let (r, es') := r.advanceTo h.clock
    let i := h.runs.length
    let h := { h with runner := runner, connections := h.left session, runs := h.runs ++ [r] }
    let (h, sights) := h.replace i (r, es ++ es')
    .ok (i, h, sights)

/-- Lets every run move up to a time, the earlier ones first. -/
def moveRuns (time : Nat) : Nat → Rehearsal → Rehearsal × List Sight
  | 0, h => (h, [])
  | k + 1, h =>
    let (h, sights) := moveRuns time k h
    match h.runs[k]? with
    | none => (h, sights)
    | some r =>
      let (h, sights') := h.replace k (r.advanceTo time)
      (h, sights ++ sights')

def advanceTo (h : Rehearsal) (time : Nat) : Rehearsal × List Sight :=
  let (h, sights) := moveRuns time h.runs.length h
  ({ h with clock := max h.clock time }, sights)

def advance (h : Rehearsal) (ms : Nat) : Rehearsal × List Sight := h.advanceTo (h.clock + ms)

def abort (h : Rehearsal) (i : Nat) : Rehearsal × List Sight :=
  match h.runs[i]? with
  | none => (h, [])
  | some r => h.replace i (r.deliver h.clock .abort)

def lastTime (now : Nat) (rs : List Record) : Nat := rs.foldl (fun t r => max t r.time) now

def awaitRun (h : Rehearsal) (i : Nat) : Rehearsal × List Sight :=
  match h.runs[i]? with
  | none => (h, [])
  | some r => h.advanceTo (lastTime h.clock r.complete.2)

def isFinished (h : Rehearsal) (i : Nat) : Bool := (h.runs[i]?.map (·.session.isEnded)).getD false

def report? (h : Rehearsal) (i : Nat) : Option Session.Report :=
  h.runs[i]?.bind (·.session.report?)

end Rehearsal

end Testbed
