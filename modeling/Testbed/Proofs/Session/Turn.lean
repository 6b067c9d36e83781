import Testbed.Session

/-!
# Turns of a session

A session is moved by the beginning of its task and by signals. `Turn` lists all that a move can do:
what it logs, the state it enters, and the order of its effects. Every move of a coherent session,
one whose state is that of its phase, is a turn, and it leaves the session coherent. What follows
about runs is derived from turns alone.
-/

namespace Testbed

open Log (Entry)

variable {_ : Json.Wording}

namespace Frame

def entries [Json.Wording] : Frame → List Entry
  | .text t => .debug s!"Raw message received: {t}" :: (Reading.ofText t).entries
  | .malformed why => [.problem (.malformedMessage why)]
  | .close code reason =>
    if code = some policyViolation then [.problem (.credentialRejected (Session.refusal reason))]
    else [.info "Connection closed by server"]

/-- What a frame decides: the outcome, and whether the other side has closed. -/
def decision? [Json.Wording] : Frame → Option (Session.Outcome × Bool)
  | .text t =>
    match (Reading.ofText t).verdict with
    | .goOn => none
    | .failedByLog | .ended .failed => some (.failed, false)
    | .ended .completed => some (.completed, false)
    | .violation | .malformed _ => some (.protocolError, false)
  | .malformed _ => some (.protocolError, false)
  | .close code _ =>
    some (if code = some policyViolation then .credentialRejected else .closedByServer, true)

end Frame

namespace Session

inductive Stimulus where
  /-- Its task begins. -/
  | begin
  | signal (x : Signal)
  deriving Repr, DecidableEq

def move [Json.Wording] (s : Session) : Stimulus → Move
  | .begin => s.start
  | .signal x => s.step x

def logEffects (es : List Entry) : List Effect := es.map fun e => .event (.log e)

/-- The first entry of every log that is not cut off before it. -/
def connectEntry (a : Address) : Entry := .info s!"Connecting to {a.text}"

def sentEntry : Entry := .info "Connected and token sent"

def streamEnd : Problem := .transport "connection ended without a close frame"

namespace Phase

def isStreaming : Phase → Bool
  | .idle | .connecting | .sending | .receiving => true
  | _ => false

def isClosing : Phase → Bool
  | .closing .. => true
  | _ => false

def holdsTransport : Phase → Bool
  | .sending | .receiving | .closing .. => true
  | _ => false

def heeds : Phase → Stimulus → Bool
  | .idle, .begin => true
  | .connecting, .signal .connected | .connecting, .signal (.connectFailed _) => true
  | .sending, .signal .sent | .sending, .signal (.sendFailed _) => true
  | .receiving, .signal (.received _) | .receiving, .signal .streamEnded
  | .receiving, .signal (.receiveFailed _) => true
  | .closing .., .signal .closed | .closing .., .signal (.closeFailed _)
  | .closing .., .signal .closeTimedOut => true
  | p, .signal .deadline => p.isStreaming
  | p, .signal .abort => p.isStreaming || p.isClosing
  | _, _ => false

end Phase

def Coherent (s : Session) : Prop :=
  match s.phase with
  | .idle => s.state = .idle
  | .connecting => s.state = .connecting
  | .sending => s.state = .authenticating
  | .receiving => s.state = .streaming
  | .closing .. => s.state = .closing
  | .ended _ => s.state.isTerminal = true
  | .lost => True

def Signal.isInterruption : Signal → Bool
  | .deadline | .abort => true
  | _ => false

def fault? (l : Limits) : Phase → Signal → Option Problem
  | .connecting, .connectFailed p | .sending, .sendFailed p | .receiving, .receiveFailed p => some p
  | .receiving, .streamEnded => some streamEnd
  | ph, .deadline => if ph.isStreaming then some (runTimeout l) else none
  | ph, .abort => if ph.isStreaming then some .cancelled else none
  | _, _ => none

/-- An interruption takes the connection away before it is recorded, a failing call afterwards. -/
def breakEffects (ph : Phase) (x : Signal) (p : Problem) : List Effect :=
  if !ph.holdsTransport then logEffects [.problem p]
  else if x.isInterruption then .call .drop :: logEffects [.problem p]
  else logEffects [.problem p] ++ [.call .drop]

inductive CloseEnd where
  | acknowledged
  | failed (p : Problem)
  | timedOut
  /-- By an abort. -/
  | cutShort
  deriving Repr, DecidableEq

namespace CloseEnd

def signal : CloseEnd → Signal
  | .acknowledged => .closed
  | .failed p => .closeFailed p
  | .timedOut => .closeTimedOut
  | .cutShort => .abort

/-- What is logged about the end of closing, if the peer had closed before or not. -/
def entries (l : Limits) : CloseEnd → Bool → List Entry
  | .cutShort, _ => [.problem .cancelled]
  | _, true => []
  | .acknowledged, false => [.info "Connection closed by client"]
  | .failed p, false => [.problem (closingProblem p)]
  | .timedOut, false => [.problem (closeTimeout l)]

def state : CloseEnd → Outcome → Bool → State
  | .cutShort, _, _ | .failed _, _, false | .timedOut, _, false => .failed
  | _, o, _ => o.terminalState

end CloseEnd

inductive Turn [Json.Wording] (s : Session) : Stimulus → Move → Prop where
  | ignored {x} (h : s.phase.heeds x = false) : Turn s x (.rest s)
  | begun (h : s.phase = .idle) :
    Turn s .begin
      ⟨{ s with
          phase := .connecting, state := .connecting, logs := s.logs ++ [connectEntry s.address] },
        .event (.state .connecting) :: logEffects [connectEntry s.address] ++
          [.call (.connect s.address s.token)]⟩
  | connected (h : s.phase = .connecting) :
    Turn s (.signal .connected)
      ⟨{ s with phase := .sending, state := .authenticating },
        [.event (.state .authenticating), .call (.send (authText s.token))]⟩
  | sent (h : s.phase = .sending) :
    Turn s (.signal .sent)
      ⟨{ s with phase := .receiving, state := .streaming, logs := s.logs ++ [sentEntry] },
        logEffects [sentEntry] ++ [.event (.state .streaming), .call .receive]⟩
  | wentOn {f} (h : s.phase = .receiving) (hf : f.decision? = none) :
    Turn s (.signal (.received f))
      ⟨{ s with logs := s.logs ++ f.entries }, logEffects f.entries ++ [.call .receive]⟩
  | decided {f o c} (h : s.phase = .receiving) (hf : f.decision? = some (o, c)) :
    Turn s (.signal (.received f))
      ⟨{ s with phase := .closing o c, state := .closing, logs := s.logs ++ f.entries },
        logEffects f.entries ++ [.event (.state .closing), .call .close]⟩
  | broken {x p} (hp : fault? s.limits s.phase x = some p) :
    Turn s (.signal x)
      ⟨{ s with
          phase := .ended (.ofProblem p), state := .failed, logs := s.logs ++ [.problem p] },
        breakEffects s.phase x p ++ [.event (.state .failed), .event .released]⟩
  | settled {x o c} (e : CloseEnd) (h : s.phase = .closing o c) (hx : x = e.signal) :
    Turn s (.signal x)
      ⟨{ s with phase := .ended o, state := e.state o c, logs := s.logs ++ e.entries s.limits c },
        .call .drop :: logEffects (e.entries s.limits c) ++
          [.event (.state (e.state o c)), .event .released]⟩

section Moves

variable (m : Move)

theorem logAll_eq (es : List Entry) :
    m.logAll es =
      ⟨{ m.session with logs := m.session.logs ++ es }, m.effects ++ logEffects es⟩ := by
  induction es generalizing m with
  | nil => simp [Move.logAll, logEffects]
  | cons e es ih =>
    change (m.log e).logAll es = _
    rw [ih]
    simp [Move.log, logEffects]

theorem enter_of_ne {st : State} (h : m.session.state ≠ st) :
    m.enter st = ⟨{ m.session with state := st }, m.effects ++ [.event (.state st)]⟩ := if_neg h

theorem release_of_live {p : Phase} (h : m.session.isEnded = false) :
    m.release p = ⟨{ m.session with phase := p }, m.effects ++ [.event .released]⟩ := by
  rw [Move.release, h]
  rfl

theorem release_of_isEnded {p : Phase} (h : m.session.isEnded = true) : m.release p = m := by
  rw [Move.release, h]
  rfl

/-- What has been released is not released again. -/
theorem finish_of_ne (o : Outcome) {st : State} (he : m.session.isEnded = false)
    (h : m.session.state ≠ st) :
    m.finish o st =
      ⟨{ m.session with phase := .ended o, state := st },
        m.effects ++ [.event (.state st), .event .released]⟩ := by
  have hlive : Session.isEnded { m.session with state := st } = false := he
  rw [Move.finish, enter_of_ne m h, release_of_live ⟨_, _⟩ hlive, release_of_isEnded ⟨_, _⟩ rfl]
  simp

theorem terminalState_ofProblem (p : Problem) : (Outcome.ofProblem p).terminalState = .failed := by
  cases p <;> rfl

theorem isTerminal_terminalState (o : Outcome) : o.terminalState.isTerminal = true := by
  cases o <;> rfl

theorem CloseEnd.isTerminal_state (e : CloseEnd) (o : Outcome) (c : Bool) :
    (e.state o c).isTerminal = true := by
  cases e <;> cases c <;> first | rfl | exact isTerminal_terminalState o

theorem lose_of_ne (p : Problem) (he : m.session.isEnded = false)
    (h : m.session.state ≠ .failed) :
    m.lose p =
      ⟨{ m.session with phase := .ended (.ofProblem p), state := .failed },
        m.effects ++ [.event (.state .failed), .event .released]⟩ := by
  rw [Move.lose, terminalState_ofProblem]
  exact finish_of_ne m _ he h

/-- A frame is recorded as a whole before it lets the run go on or decides it. -/
theorem receiveFrame_eq (f : Frame) :
    receiveFrame f m =
      match f.decision? with
      | none => (m.logAll f.entries).call .receive
      | some (o, c) => (m.logAll f.entries).decide o c := by
  cases f with
  | text t =>
    simp only [receiveFrame, Frame.decision?, Frame.entries]
    cases (Reading.ofText t).verdict with
    | ended e => cases e <;> rfl
    | _ => rfl
  | malformed why => rfl
  | close code reason =>
    by_cases hc : code = some policyViolation <;>
      simp [receiveFrame, Frame.decision?, Frame.entries, hc, Move.logAll]

end Moves

section Turns

variable {s : Session} {x : Stimulus}

theorem Coherent.state_ne_terminal (hs : s.Coherent) (h : s.isEnded = false) {st : State}
    (hst : st.isTerminal = true) : s.state ≠ st := by
  rintro rfl
  unfold Coherent at hs
  unfold isEnded at h
  split at hs <;> simp_all [State.isTerminal]

theorem move_of_not_heeds (h : s.phase.heeds x = false) : s.move x = .rest s := by
  cases hp : s.phase <;> cases x with
  | begin => simp_all [move, start, Phase.heeds]
  | signal x =>
    cases x <;>
      simp_all [move, step, interrupt, Phase.heeds, Phase.isStreaming, Phase.isClosing, Move.rest]

theorem turn_begin (hs : s.Coherent) (hp : s.phase = .idle) :
    Turn s .begin (s.move .begin) := by
  have hst : s.state ≠ .connecting := by simp_all [Coherent]
  simp only [move, start, hp]
  rw [enter_of_ne _ hst]
  exact .begun hp

theorem turn_connected (hs : s.Coherent) (hp : s.phase = .connecting) :
    Turn s (.signal .connected) (s.move (.signal .connected)) := by
  have hst : s.state ≠ .authenticating := by simp_all [Coherent]
  simp only [move, step, hp]
  rw [enter_of_ne _ hst]
  exact .connected hp

theorem turn_sent (hs : s.Coherent) (hp : s.phase = .sending) :
    Turn s (.signal .sent) (s.move (.signal .sent)) := by
  have hst : ((Move.rest s).log sentEntry).session.state ≠ .streaming := by
    simp_all [Coherent, Move.rest, Move.log]
  simp only [move, step, hp]
  rw [← sentEntry, enter_of_ne _ hst]
  exact .sent hp

theorem turn_received {f : Frame} (hs : s.Coherent) (hp : s.phase = .receiving) :
    Turn s (.signal (.received f)) (s.move (.signal (.received f))) := by
  simp only [move, step, hp]
  rw [receiveFrame_eq, logAll_eq]
  cases hf : f.decision? with
  | none => exact .wentOn hp hf
  | some d =>
    obtain ⟨o, c⟩ := d
    have hst : s.state ≠ .closing := by simp_all [Coherent]
    simp only [Move.decide]
    rw [enter_of_ne _ hst]
    simpa [Move.call, Move.await, Move.rest] using Turn.decided hp hf

theorem turn_broken {x : Signal} {p : Problem} (hs : s.Coherent)
    (hp : fault? s.limits s.phase x = some p) : Turn s (.signal x) (s.move (.signal x)) := by
  have he : s.isEnded = false := by
    cases h : s.phase <;> cases x <;> simp_all [fault?, isEnded, Phase.isStreaming]
  have hst : s.state ≠ .failed := hs.state_ne_terminal he rfl
  have hlose (m : Move) (hphase : m.session.phase = s.phase) (hstate : m.session.state = s.state) :=
    lose_of_ne m p (by rwa [isEnded, hphase]) (hstate ▸ hst)
  have hb := Turn.broken hp
  cases h : s.phase <;> cases x <;> simp_all [fault?, Phase.isStreaming]
  all_goals
    simp_all [move, step, interrupt, breakEffects, Phase.holdsTransport, Signal.isInterruption,
      logEffects, Move.rest, Move.log, Move.call, streamEnd]

theorem turn_settled {o : Outcome} {c : Bool} (hs : s.Coherent) (hp : s.phase = .closing o c)
    (e : CloseEnd) : Turn s (.signal e.signal) (s.move (.signal e.signal)) := by
  have he : s.isEnded = false := by simp [isEnded, hp]
  have hst : s.state ≠ e.state o c := hs.state_ne_terminal he (e.isTerminal_state o c)
  have hm : s.move (.signal e.signal) =
      ((((Move.rest s).call .drop).logAll (e.entries s.limits c)).finish o (e.state o c)) := by
    cases e <;> cases c <;> simp only [CloseEnd.signal, move, step, hp] <;> rfl
  rw [hm, logAll_eq, finish_of_ne _ _ he hst]
  exact .settled e hp rfl

theorem heeds_begin {ph : Phase} (h : ph.heeds .begin = true) : ph = .idle := by
  cases ph <;> first | rfl | cases h

/-- A signal that is heeded is an awaited success, a fault of the run or an end of closing. -/
theorem heeds_signal (l : Limits) {ph : Phase} {x : Signal} (h : ph.heeds (.signal x) = true) :
    (ph = .connecting ∧ x = .connected) ∨ (ph = .sending ∧ x = .sent) ∨
      (ph = .receiving ∧ ∃ f, x = .received f) ∨ (∃ p, fault? l ph x = some p) ∨
      ∃ o c e, ph = .closing o c ∧ x = CloseEnd.signal e := by
  cases ph with
  | closing o c =>
    have he : ∃ e, x = CloseEnd.signal e := by
      cases x <;> simp [Phase.heeds, Phase.isStreaming] at h
      · exact ⟨.acknowledged, rfl⟩
      · exact ⟨.failed _, rfl⟩
      · exact ⟨.timedOut, rfl⟩
      · exact ⟨.cutShort, rfl⟩
    simp [he]
  | _ => cases x <;> simp [Phase.heeds, Phase.isStreaming, Phase.isClosing, fault?] at h ⊢

theorem isStreaming_of_fault? {l : Limits} {ph : Phase} {x : Signal} {p : Problem}
    (h : fault? l ph x = some p) : ph.isStreaming = true := by
  cases ph <;> first | rfl | (cases x <;> simp [fault?, Phase.isStreaming] at h)

theorem heeds_of_fault? {l : Limits} {ph : Phase} {x : Signal} {p : Problem}
    (h : fault? l ph x = some p) : ph.heeds (.signal x) = true := by
  cases ph <;> cases x <;> simp_all [fault?, Phase.heeds, Phase.isStreaming]

theorem heeds_closeEnd (o : Outcome) (c : Bool) (e : CloseEnd) :
    (Phase.closing o c).heeds (.signal e.signal) = true := by
  cases e <;> rfl

theorem CloseEnd.signal_injective {e e' : CloseEnd} (h : e.signal = e'.signal) : e = e' := by
  cases e <;> cases e' <;> simp_all [CloseEnd.signal]

theorem Turn.heeds_or_rest {m : Move} (h : Turn s x m) :
    s.phase.heeds x = true ∨ m = .rest s := by
  cases h with
  | ignored h => exact .inr rfl
  | broken hp => exact .inl (heeds_of_fault? hp)
  | settled e h hx =>
    subst hx
    exact .inl (by rw [h]; exact heeds_closeEnd _ _ e)
  | begun h | connected h | sent h | wentOn h | decided h => exact .inl (by rw [h]; rfl)

theorem Turn.unique {m m' : Move} (h : Turn s x m) (h' : Turn s x m') : m = m' := by
  cases h with
  | ignored h => exact (h'.heeds_or_rest.resolve_left (by simp [h])).symm
  | broken hp =>
    have hh := heeds_of_fault? hp
    have hst := isStreaming_of_fault? hp
    cases h' <;> simp_all [fault?, Phase.isStreaming]
  | settled e hp hx =>
    have hh := heeds_closeEnd ‹_› ‹_› e
    cases h' with
    | settled e' hp' hx' =>
      obtain rfl := CloseEnd.signal_injective (hx.symm.trans hx')
      simp_all
    | broken hp' =>
      have hst := isStreaming_of_fault? hp'
      simp [hp, Phase.isStreaming] at hst
    | _ => simp_all
  | begun h | connected h | sent h | wentOn h | decided h =>
    cases h' <;> simp_all [Phase.heeds, fault?]

/-- Every move of a coherent session is a turn. -/
theorem turn_move [Json.Wording] (hs : s.Coherent) (x : Stimulus) : Turn s x (s.move x) := by
  cases hh : s.phase.heeds x with
  | false =>
    rw [move_of_not_heeds hh]
    exact .ignored hh
  | true =>
    cases x with
    | begin => exact turn_begin hs (heeds_begin hh)
    | signal x =>
      obtain ⟨hp, rfl⟩ | ⟨hp, rfl⟩ | ⟨hp, f, rfl⟩ | ⟨p, hp⟩ | ⟨o, c, e, hp, rfl⟩ :=
        heeds_signal s.limits hh
      · exact turn_connected hs hp
      · exact turn_sent hs hp
      · exact turn_received hs hp
      · exact turn_broken hs hp
      · exact turn_settled hs hp e

theorem Turn.move_eq {m : Move} (h : Turn s x m) (hs : s.Coherent) : s.move x = m :=
  (turn_move hs x).unique h

theorem Turn.coherent {m : Move} (h : Turn s x m) (hs : s.Coherent) : m.session.Coherent := by
  cases h with
  | ignored => exact hs
  | wentOn h => simpa [Coherent, h] using hs
  | settled => exact CloseEnd.isTerminal_state _ _ _
  | _ => rfl

theorem Turn.limits_eq {m : Move} (h : Turn s x m) : m.session.limits = s.limits := by
  cases h <;> rfl

theorem coherent_move [Json.Wording] (hs : s.Coherent) (x : Stimulus) :
    (s.move x).session.Coherent :=
  (turn_move hs x).coherent hs

theorem heeds_of_isEnded (h : s.isEnded = true) (x : Stimulus) : s.phase.heeds x = false := by
  cases hp : s.phase <;> rcases x with _ | x <;> try cases x
  all_goals simp_all [isEnded, Phase.heeds, Phase.isStreaming, Phase.isClosing]

theorem move_of_isEnded (h : s.isEnded = true) (x : Stimulus) : s.move x = .rest s :=
  move_of_not_heeds (heeds_of_isEnded h x)

theorem abandon_of_isEnded (h : s.isEnded = true) : s.abandon = .rest s := by
  have hrest := release_of_isEnded (Move.rest s) (p := .lost) h
  cases hp : s.phase <;> simp_all [isEnded, abandon]

theorem abandon_of_live (h : s.isEnded = false) :
    s.abandon = ⟨{ s with phase := .lost },
      (if s.phase.holdsTransport then [.call .drop] else []) ++ [.event .released]⟩ := by
  have hrest := release_of_live (Move.rest s) (p := .lost) h
  have hdrop := release_of_live ((Move.rest s).call .drop) (p := .lost) h
  cases hp : s.phase <;>
    simp_all [isEnded, abandon, Phase.holdsTransport, Move.rest, Move.call]

end Turns

end Session

end Testbed
