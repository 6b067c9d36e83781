import Mathlib.Data.List.Induction
import Testbed.Proofs.Session.Turn

/-!
# Stories of runs

A run is a session played with any stimuli. `Story` lists how far a run can have come and how it can
have ended, and gives for each story the session and all the effects that belong to it. Every story
happens (`play_story`), and every run is the story of the stimuli that it heeded (`exists_story`).
-/

namespace Testbed.Session

open Log (Entry)

variable [Json.Wording]

def play (s : Session) : List Stimulus → Move
  | [] => .rest s
  | x :: xs =>
    let m := s.move x
    let m' := m.session.play xs
    ⟨m'.session, m.effects ++ m'.effects⟩

def heeded (s : Session) : List Stimulus → List Stimulus
  | [] => []
  | x :: xs =>
    if s.phase.heeds x then x :: (s.move x).session.heeded xs else s.heeded xs

abbrev PassingFrames := { fs : List Frame // ∀ f ∈ fs, f.decision? = none }

structure DecidingFrame where
  frame : Frame
  outcome : Outcome
  peerClosed : Bool
  decides : frame.decision? = some (outcome, peerClosed)

namespace PassingFrames

def stimuli (fs : PassingFrames) : List Stimulus := fs.1.map fun f => .signal (.received f)

def logs (fs : PassingFrames) : List Entry := fs.1.flatMap Frame.entries

def effects (fs : PassingFrames) : List Effect :=
  fs.1.flatMap fun f => logEffects f.entries ++ [.call .receive]

def snoc (fs : PassingFrames) (f : Frame) (hf : f.decision? = none) : PassingFrames :=
  ⟨fs.1 ++ [f], by
    intro g hg
    rcases List.mem_append.mp hg with hg | hg
    · exact fs.2 g hg
    · rwa [List.mem_singleton.mp hg]⟩

end PassingFrames

inductive Progress where
  | unbegun
  | begun
  | connected
  | sent (fs : PassingFrames)

namespace Progress

variable (a : Address) (token : String) (l : Limits)

def stimuli : Progress → List Stimulus
  | .unbegun => []
  | .begun => [.begin]
  | .connected => [.begin, .signal .connected]
  | .sent fs => [.begin, .signal .connected, .signal .sent] ++ fs.stimuli

def phase : Progress → Phase
  | .unbegun => .idle
  | .begun => .connecting
  | .connected => .sending
  | .sent _ => .receiving

def state : Progress → State
  | .unbegun => .idle
  | .begun => .connecting
  | .connected => .authenticating
  | .sent _ => .streaming

def logs : Progress → List Entry
  | .unbegun => []
  | .begun | .connected => [connectEntry a]
  | .sent fs => [connectEntry a, sentEntry] ++ fs.logs

def connectEffects : List Effect :=
  .event (.state .connecting) :: logEffects [connectEntry a] ++ [.call (.connect a token)]

def sendEffects : List Effect :=
  connectEffects a token ++ [.event (.state .authenticating), .call (.send (authText token))]

def effects : Progress → List Effect
  | .unbegun => []
  | .begun => connectEffects a token
  | .connected => sendEffects a token
  | .sent fs =>
    sendEffects a token ++ logEffects [sentEntry] ++ [.event (.state .streaming), .call .receive] ++
      fs.effects

def session (p : Progress) : Session := ⟨a, token, l, p.phase, p.state, p.logs a⟩

end Progress

structure Break (l : Limits) where
  progress : Progress
  signal : Signal
  problem : Problem
  isFault : fault? l progress.phase signal = some problem

inductive Course (l : Limits) where
  /-- Before it was decided. -/
  | broken (b : Break l)
  | closed (fs : PassingFrames) (f : DecidingFrame) (e : CloseEnd)

namespace Course

variable {l : Limits} (a : Address) (token : String)

def stimuli : Course l → List Stimulus
  | .broken b => b.progress.stimuli ++ [.signal b.signal]
  | .closed fs f e =>
    (Progress.sent fs).stimuli ++ [.signal (.received f.frame), .signal e.signal]

def outcome : Course l → Outcome
  | .broken b => .ofProblem b.problem
  | .closed _ f _ => f.outcome

def state : Course l → State
  | .broken _ => .failed
  | .closed _ f e => e.state f.outcome f.peerClosed

/-- The log of the run: what belongs to each of its answers, in their order. -/
def logs : Course l → List Entry
  | .broken b => b.progress.logs a ++ [.problem b.problem]
  | .closed fs f e =>
    [connectEntry a, sentEntry] ++ (fs.1 ++ [f.frame]).flatMap Frame.entries ++
      e.entries l f.peerClosed

def effects : Course l → List Effect
  | .broken b =>
    b.progress.effects a token ++ breakEffects b.progress.phase b.signal b.problem ++
      [.event (.state .failed), .event .released]
  | .closed fs f e =>
    (Progress.sent fs).effects a token ++ logEffects f.frame.entries ++
      [.event (.state .closing), .call .close, .call .drop] ++
        logEffects (e.entries l f.peerClosed) ++
          [.event (.state (e.state f.outcome f.peerClosed)), .event .released]

def session (c : Course l) : Session :=
  ⟨a, token, l, .ended c.outcome, c.state, c.logs a⟩

end Course

inductive Story (l : Limits) where
  | streaming (p : Progress)
  | closing (fs : PassingFrames) (f : DecidingFrame)
  | ended (c : Course l)

namespace Story

variable {l : Limits} (a : Address) (token : String)

def stimuli : Story l → List Stimulus
  | .streaming p => p.stimuli
  | .closing fs f => (Progress.sent fs).stimuli ++ [.signal (.received f.frame)]
  | .ended c => c.stimuli

def session : Story l → Session
  | .streaming p => p.session a token l
  | .closing fs f =>
    ⟨a, token, l, .closing f.outcome f.peerClosed, .closing,
      (Progress.sent fs).logs a ++ f.frame.entries⟩
  | .ended c => c.session a token

def effects : Story l → List Effect
  | .streaming p => p.effects a token
  | .closing fs f =>
    (Progress.sent fs).effects a token ++ logEffects f.frame.entries ++
      [.event (.state .closing), .call .close]
  | .ended c => c.effects a token

end Story

section Plays

variable {s : Session}

theorem play_append (xs ys : List Stimulus) :
    s.play (xs ++ ys) =
      ⟨((s.play xs).session.play ys).session,
        (s.play xs).effects ++ ((s.play xs).session.play ys).effects⟩ := by
  induction xs generalizing s with
  | nil => rfl
  | cons x xs ih => simp [play, ih]

theorem play_singleton (x : Stimulus) : s.play [x] = s.move x := by
  simp [play, Move.rest]

omit [Json.Wording] in
theorem coherent_create (a : Address) (token : String) (l : Limits) :
    (create a token l).Coherent := rfl

/-- What does not fit leaves no trace. -/
theorem play_heeded (xs : List Stimulus) : s.play (s.heeded xs) = s.play xs := by
  induction xs generalizing s with
  | nil => rfl
  | cons x xs ih =>
    cases hx : s.phase.heeds x with
    | true => simp only [heeded, hx, if_true, play, ih]
    | false =>
      simp only [heeded, hx, Bool.false_eq_true, if_false, ih, play, move_of_not_heeds hx]
      rfl

omit [Json.Wording] in
theorem isEnded_of_report? {r : Report} (h : s.report? = some r) : s.isEnded = true := by
  cases hp : s.phase <;> simp_all [report?, isEnded]

theorem heeded_of_isEnded (h : s.isEnded = true) (xs : List Stimulus) : s.heeded xs = [] := by
  induction xs with
  | nil => rfl
  | cons x xs ih => simpa [heeded, heeds_of_isEnded h] using ih

theorem play_of_isEnded (h : s.isEnded = true) (xs : List Stimulus) : s.play xs = .rest s := by
  rw [← play_heeded, heeded_of_isEnded h]
  rfl

/-- Once a run has ended, nothing that comes adds anything. -/
theorem play_append_of_isEnded {xs : List Stimulus} (h : (s.play xs).session.isEnded = true)
    (ys : List Stimulus) : s.play (xs ++ ys) = s.play xs := by
  rw [play_append, play_of_isEnded h]
  simp [Move.rest]

theorem coherent_play (hs : s.Coherent) (xs : List Stimulus) :
    (s.play xs).session.Coherent := by
  induction xs generalizing s with
  | nil => exact hs
  | cons x xs ih => exact ih (coherent_move hs x)

theorem limits_play (hs : s.Coherent) (xs : List Stimulus) :
    (s.play xs).session.limits = s.limits := by
  induction xs generalizing s with
  | nil => rfl
  | cons x xs ih => exact (ih (coherent_move hs x)).trans (turn_move hs x).limits_eq

theorem heeded_append (xs ys : List Stimulus) :
    s.heeded (xs ++ ys) = s.heeded xs ++ (s.play xs).session.heeded ys := by
  induction xs generalizing s with
  | nil => rfl
  | cons x xs ih =>
    cases hx : s.phase.heeds x with
    | true => simp [heeded, hx, ih, play]
    | false =>
      simp only [List.cons_append, heeded, hx, Bool.false_eq_true, if_false, ih, play,
        move_of_not_heeds hx]
      rfl

theorem play_passing (hs : s.Coherent) (hp : s.phase = .receiving) (fs : PassingFrames) :
    s.play fs.stimuli = ⟨{ s with logs := s.logs ++ fs.logs }, fs.effects⟩ := by
  obtain ⟨fs, hfs⟩ := fs
  simp only [PassingFrames.stimuli, PassingFrames.logs, PassingFrames.effects]
  induction fs generalizing s with
  | nil => simp [play, Move.rest]
  | cons f fs ih =>
    have hm := (Turn.wentOn hp (hfs f List.mem_cons_self)).move_eq hs
    have hc := coherent_move hs (.signal (.received f))
    rw [hm] at hc
    have hi := ih hc hp (fun g hg => hfs g (List.mem_cons_of_mem f hg))
    simp only [List.map_cons, play, hm, hi, List.flatMap_cons, List.append_assoc]

end Plays

section Stories

variable {l : Limits} (a : Address) (token : String)

theorem coherent_progress (p : Progress) : (p.session a token l).Coherent := by
  cases p <;> rfl

theorem play_snoc {s : Session} {xs : List Stimulus} {s' : Session} {es : List Effect}
    (h : s.play xs = ⟨s', es⟩) (x : Stimulus) :
    s.play (xs ++ [x]) = ⟨(s'.move x).session, es ++ (s'.move x).effects⟩ := by
  rw [play_append, h, play_singleton]

theorem play_progress (p : Progress) :
    (create a token l).play p.stimuli = ⟨p.session a token l, p.effects a token⟩ := by
  have h₁ : (create a token l).play Progress.begun.stimuli =
      ⟨Progress.begun.session a token l, Progress.begun.effects a token⟩ := by
    rw [Progress.stimuli, play_singleton, (Turn.begun rfl).move_eq (coherent_create a token l)]
    rfl
  have h₂ : (create a token l).play Progress.connected.stimuli =
      ⟨Progress.connected.session a token l, Progress.connected.effects a token⟩ := by
    rw [show Progress.connected.stimuli = Progress.begun.stimuli ++ [.signal .connected] from rfl,
      play_snoc h₁, (Turn.connected rfl).move_eq (coherent_progress a token .begun)]
    rfl
  cases p with
  | unbegun => rfl
  | begun => exact h₁
  | connected => exact h₂
  | sent fs =>
    have h₃ := play_snoc h₂ (.signal .sent)
    rw [(Turn.sent rfl).move_eq (coherent_progress a token .connected)] at h₃
    rw [show (Progress.sent fs).stimuli =
      (Progress.connected.stimuli ++ [.signal .sent]) ++ fs.stimuli from rfl, play_append, h₃,
      play_passing (by rfl) rfl]
    simp [Progress.session, Progress.effects, Progress.logs, Progress.phase, Progress.state]

theorem play_closing (fs : PassingFrames) (f : DecidingFrame) :
    let st : Story l := .closing fs f
    (create a token l).play st.stimuli = ⟨st.session a token, st.effects a token⟩ := by
  intro st
  have hm := (Turn.decided rfl f.decides).move_eq (coherent_progress (l := l) a token (.sent fs))
  rw [show st.stimuli = (Progress.sent fs).stimuli ++ [.signal (.received f.frame)] from rfl,
    play_snoc (play_progress a token (.sent fs)), hm]
  simp [st, Story.session, Story.effects, Progress.session]

theorem play_course (c : Course l) :
    (create a token l).play c.stimuli = ⟨c.session a token, c.effects a token⟩ := by
  cases c with
  | broken b =>
    have hm := (Turn.broken (s := b.progress.session a token l) b.isFault).move_eq
      (coherent_progress a token b.progress)
    rw [Course.stimuli, play_snoc (play_progress a token b.progress), hm]
    simp [Course.session, Course.effects, Course.logs, Course.outcome, Course.state,
      Progress.session]
  | closed fs f e =>
    let st : Story l := .closing fs f
    have hm := (Turn.settled (s := st.session a token) e rfl rfl).move_eq rfl
    rw [show (Course.closed (l := l) fs f e).stimuli = st.stimuli ++ [.signal e.signal] by
      simp [st, Course.stimuli, Story.stimuli], play_snoc (play_closing a token fs f), hm]
    simp [st, Course.session, Course.effects, Course.logs, Course.outcome, Course.state,
      Story.session, Story.effects, Progress.logs, PassingFrames.logs]

/-- Every story happens, with the session and the effects that belong to it. -/
theorem play_story (st : Story l) :
    (create a token l).play st.stimuli = ⟨st.session a token, st.effects a token⟩ := by
  cases st with
  | streaming p => exact play_progress a token p
  | closing fs f => exact play_closing a token fs f
  | ended c => exact play_course a token c

theorem Story.extend_streaming (p : Progress) {x : Stimulus}
    (h : ((Story.streaming p : Story l).session a token).phase.heeds x = true) :
    ∃ st : Story l, st.stimuli = p.stimuli ++ [x] := by
  cases x with
  | begin =>
    cases p with
    | unbegun => exact ⟨.streaming .begun, rfl⟩
    | _ => cases h
  | signal x =>
    obtain ⟨hp, rfl⟩ | ⟨hp, rfl⟩ | ⟨hp, f, rfl⟩ | ⟨q, hq⟩ | ⟨o, c, e, hp, rfl⟩ :=
      heeds_signal l h
    · cases p with
      | begun => exact ⟨.streaming .connected, rfl⟩
      | _ => cases hp
    · cases p with
      | connected => exact ⟨.streaming (.sent ⟨[], by simp⟩), rfl⟩
      | _ => cases hp
    · cases p with
      | sent fs =>
        cases hf : f.decision? with
        | none =>
          refine ⟨.streaming (.sent (fs.snoc f hf)), ?_⟩
          simp [Story.stimuli, Progress.stimuli, PassingFrames.stimuli, PassingFrames.snoc]
        | some d => exact ⟨.closing fs ⟨f, d.1, d.2, hf⟩, rfl⟩
      | _ => cases hp
    · exact ⟨.ended (.broken ⟨p, x, q, hq⟩), rfl⟩
    · cases p <;> cases hp

theorem Story.extend_closing (fs : PassingFrames) (f : DecidingFrame) {x : Stimulus}
    (h : ((Story.closing fs f : Story l).session a token).phase.heeds x = true) :
    ∃ st : Story l, st.stimuli = (Story.closing fs f : Story l).stimuli ++ [x] := by
  cases x with
  | begin => cases h
  | signal x =>
    obtain ⟨hp, -⟩ | ⟨hp, -⟩ | ⟨hp, -⟩ | ⟨q, hq⟩ | ⟨o, c, e, -, rfl⟩ := heeds_signal l h
    · cases hp
    · cases hp
    · cases hp
    · cases isStreaming_of_fault? hq
    · exact ⟨.ended (.closed fs f e), by simp [Story.stimuli, Course.stimuli]⟩

/-- A stimulus that a run heeds makes its story longer. -/
theorem Story.extend (st : Story l) {x : Stimulus}
    (h : (st.session a token).phase.heeds x = true) :
    ∃ st' : Story l, st'.stimuli = st.stimuli ++ [x] := by
  cases st with
  | streaming p => exact extend_streaming a token p h
  | closing fs f => exact extend_closing a token fs f h
  | ended c =>
    have hn := heeds_of_isEnded (s := c.session a token) rfl x
    exact absurd h (by simp [Story.session, hn])

/-- Every run is the story of the stimuli that it heeded. -/
theorem exists_story (xs : List Stimulus) :
    ∃ st : Story l, (create a token l).heeded xs = st.stimuli ∧
      (create a token l).play xs = ⟨st.session a token, st.effects a token⟩ := by
  suffices h : ∃ st : Story l, (create a token l).heeded xs = st.stimuli by
    obtain ⟨st, hst⟩ := h
    exact ⟨st, hst, by rw [← play_heeded, hst, play_story]⟩
  -- from the end: the last stimulus extends the story of those before it or leaves no trace
  induction xs using List.reverseRecOn with
  | nil => exact ⟨.streaming .unbegun, rfl⟩
  | append_singleton xs x ih =>
    obtain ⟨st, hst⟩ := ih
    have hp : ((create a token l).play xs).session = st.session a token := by
      rw [← play_heeded, hst, play_story]
    rw [heeded_append, hst, hp]
    cases hx : (st.session a token).phase.heeds x with
    | true =>
      obtain ⟨st', hst'⟩ := st.extend a token hx
      exact ⟨st', by simp [heeded, hx, hst']⟩
    | false => exact ⟨st, by simp [heeded, hx]⟩

end Stories

end Testbed.Session
