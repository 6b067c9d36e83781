import Testbed.Proofs.Session.RunLog

/-!
# The order of a run's events

The states of a run climb the ladder from connecting to closing without leaving a rung out, and then
come to rest once. A session that lost its connection fails, so that it is closed only after it was
closing. The release is the last of all events, and the entries among the events are the log.
-/

namespace Testbed.Session

open Log (Entry)

def statesOf (es : List Event) : List State :=
  es.filterMap fun
    | .state st => some st
    | _ => none

def entriesOf (es : List Event) : List Entry :=
  es.filterMap fun
    | .log e => some e
    | _ => none

def ladder : List State := [.connecting, .authenticating, .streaming, .closing]

section Views

variable (es es' : List Effect)

@[simp] theorem eventsOf_append : eventsOf (es ++ es') = eventsOf es ++ eventsOf es' :=
  List.filterMap_append

@[simp] theorem eventsOf_event (e : Event) : eventsOf (.event e :: es) = e :: eventsOf es := rfl

@[simp] theorem eventsOf_call (c : Call) : eventsOf (.call c :: es) = eventsOf es := rfl

@[simp] theorem eventsOf_nil : eventsOf [] = [] := rfl

@[simp] theorem eventsOf_logEffects (xs : List Entry) :
    eventsOf (logEffects xs) = xs.map .log := by
  induction xs with
  | nil => rfl
  | cons x xs ih => exact congrArg (.log x :: ·) ih

@[simp] theorem eventsOf_breakEffects (ph : Phase) (x : Signal) (p : Problem) :
    eventsOf (breakEffects ph x p) = [.log (.problem p)] := by
  unfold breakEffects
  split_ifs <;> rfl

theorem eventsOf_passing [Json.Wording] (fs : PassingFrames) :
    eventsOf fs.effects = fs.logs.map .log := by
  obtain ⟨fs, hfs⟩ := fs
  simp only [PassingFrames.effects, PassingFrames.logs]
  clear hfs
  induction fs with
  | nil => rfl
  | cons f fs ih => simp [ih]

variable (vs vs' : List Event)

@[simp] theorem statesOf_append : statesOf (vs ++ vs') = statesOf vs ++ statesOf vs' :=
  List.filterMap_append

@[simp] theorem entriesOf_append : entriesOf (vs ++ vs') = entriesOf vs ++ entriesOf vs' :=
  List.filterMap_append

@[simp] theorem statesOf_map_log (xs : List Entry) : statesOf (xs.map .log) = [] := by
  induction xs with
  | nil => rfl
  | cons x xs ih => exact ih

@[simp] theorem entriesOf_map_log (xs : List Entry) : entriesOf (xs.map .log) = xs := by
  induction xs with
  | nil => rfl
  | cons x xs ih => exact congrArg (x :: ·) ih

end Views

namespace Progress

variable [Json.Wording] (a : Address) (token : String)

def rung : Progress → ℕ
  | .unbegun => 0
  | .begun => 1
  | .connected => 2
  | .sent _ => 3

theorem statesOf_effects (p : Progress) :
    statesOf (eventsOf (p.effects a token)) = ladder.take p.rung := by
  cases p with
  | sent fs =>
    simp only [effects, sendEffects, connectEffects, eventsOf_append, eventsOf_passing,
      statesOf_append, statesOf_map_log]
    rfl
  | _ => rfl

theorem entriesOf_effects (p : Progress) :
    entriesOf (eventsOf (p.effects a token)) = p.logs a := by
  cases p with
  | sent fs =>
    simp only [effects, sendEffects, connectEffects, eventsOf_append, eventsOf_passing,
      entriesOf_append, entriesOf_map_log]
    rfl
  | _ => rfl

theorem released_not_mem (p : Progress) : .released ∉ eventsOf (p.effects a token) := by
  cases p with
  | sent fs => simp [effects, sendEffects, connectEffects, eventsOf_passing]
  | _ => simp [effects, sendEffects, connectEffects]

end Progress

namespace Course

variable [Json.Wording] {l : Limits} (a : Address) (token : String)

def eventsBefore : Course l → List Event
  | .broken b => eventsOf (b.progress.effects a token) ++ [.log (.problem b.problem)]
  | .closed fs f e =>
    eventsOf ((Progress.sent fs).effects a token) ++ f.frame.entries.map .log ++
      .state .closing :: (e.entries l f.peerClosed).map .log

theorem eventsOf_effects (c : Course l) :
    eventsOf (c.effects a token) = c.eventsBefore a token ++ [.state c.state, .released] := by
  cases c <;> simp [effects, eventsBefore, state]

def rungs : Course l → ℕ
  | .broken b => b.progress.rung
  | .closed .. => ladder.length

theorem statesOf_eventsBefore (c : Course l) :
    statesOf (c.eventsBefore a token) = ladder.take c.rungs := by
  cases c with
  | broken b =>
    rw [eventsBefore, statesOf_append, Progress.statesOf_effects]
    exact List.append_nil _
  | closed fs f e =>
    have hc : statesOf (.state .closing :: (e.entries l f.peerClosed).map .log) = [.closing] :=
      congrArg (State.closing :: ·) (statesOf_map_log _)
    rw [eventsBefore, statesOf_append, statesOf_append, Progress.statesOf_effects,
      statesOf_map_log, hc]
    rfl

theorem entriesOf_eventsBefore (c : Course l) :
    entriesOf (c.eventsBefore a token) = c.logs a := by
  cases c with
  | broken b =>
    rw [eventsBefore, entriesOf_append, Progress.entriesOf_effects]
    rfl
  | closed fs f e =>
    have hc : entriesOf (.state .closing :: (e.entries l f.peerClosed).map .log) =
        e.entries l f.peerClosed := entriesOf_map_log _
    rw [eventsBefore, entriesOf_append, entriesOf_append, Progress.entriesOf_effects,
      entriesOf_map_log, hc]
    simp [logs, Progress.logs, PassingFrames.logs]

theorem released_not_mem_eventsBefore (c : Course l) : .released ∉ c.eventsBefore a token := by
  cases c with
  | broken b => simpa [eventsBefore] using b.progress.released_not_mem a token
  | closed fs f e => simpa [eventsBefore] using (Progress.sent fs).released_not_mem a token

theorem isTerminal_state (c : Course l) : c.state.isTerminal = true := by
  cases c with
  | broken b => rfl
  | closed fs f e => exact e.isTerminal_state _ _

/-- Every outcome that lost its connection is a failing one. -/
theorem rungs_of_closed (c : Course l) (h : c.state = .closed) : c.rungs = ladder.length := by
  cases c with
  | broken b => cases h
  | closed fs f e => rfl

end Course

section Ended

variable [Json.Wording] {l : Limits} (a : Address) (token : String)

theorem play_append_of_report? {s : Session} {xs : List Stimulus} {r : Report}
    (h : (s.play xs).session.report? = some r) (ys : List Stimulus) :
    s.play (xs ++ ys) = s.play xs :=
  play_append_of_isEnded (isEnded_of_report? h) ys

/-- The events of a run that has ended, whatever came and in whatever order. -/
theorem events_of_ended_run {xs : List Stimulus} {r : Report}
    (h : ((create a token l).play xs).session.report? = some r) :
    let events := eventsOf ((create a token l).play xs).effects
    (∃ k, statesOf events = ladder.take k ++ [r.state]) ∧
      r.state.isTerminal = true ∧ (∀ st ∈ ladder, st.isTerminal = false) ∧
      (r.state = .closed → statesOf events = ladder ++ [.closed]) ∧
      (∃ before, events = before ++ [.state r.state, .released] ∧ .released ∉ before) ∧
      entriesOf events = r.logs ∧
      ∀ ys, eventsOf ((create a token l).play (xs ++ ys)).effects = events := by
  obtain ⟨c, -, hplay, hr⟩ := exists_course a token h
  have hstates : statesOf (eventsOf (c.effects a token)) = ladder.take c.rungs ++ [c.state] := by
    rw [c.eventsOf_effects, statesOf_append, c.statesOf_eventsBefore]
    rfl
  have hentries : entriesOf (eventsOf (c.effects a token)) = c.logs a := by
    rw [c.eventsOf_effects, entriesOf_append, c.entriesOf_eventsBefore]
    exact List.append_nil _
  have hnext (ys : List Stimulus) := play_append_of_report? h ys
  intro events
  simp only [events, hnext, hplay, hr]
  refine ⟨⟨_, hstates⟩, c.isTerminal_state, by decide, ?_,
    ⟨_, c.eventsOf_effects a token, c.released_not_mem_eventsBefore a token⟩, hentries,
    fun _ => trivial⟩
  intro hc
  rw [hstates, c.rungs_of_closed hc, List.take_length, hc]

end Ended

theorem events_of_ended_run_unansweredClose :
    let m := (create localAddress "secret" {}).play unansweredClose
    (m.session.report?.map (·.state) = some .failed) ∧
      statesOf (eventsOf m.effects) = ladder ++ [.failed] ∧
      ∃ before, eventsOf m.effects = before ++ [.state .failed, .released] ∧
        .released ∉ before := by
  intro m
  have hr : m.session.report?.map (·.state) = some .failed := by decide
  obtain ⟨r, h, hst⟩ := Option.map_eq_some_iff.mp hr
  have he := events_of_ended_run localAddress "secret" h
  rw [hst] at he
  exact ⟨hr, by decide, he.2.2.2.2.1⟩

end Testbed.Session
