import Testbed.Proofs.Rehearsal.Fate
import Testbed.Proofs.Rehearsal.History

/-!
# What is due

The next signal of a run and what it brings about, by the turn that the session makes of it: a reply
that lets the streaming phase go on keeps the run's fate, a fault ends the run at once, a deciding
frame begins to close, and any end of closing ends the run.
-/

namespace Testbed.Rehearsal

open Session (Call CloseEnd Effect Limits Move Outcome Phase Signal Turn)

variable {_ : Json.Wording}

section Calls

variable (es es' : List Effect)

@[simp] theorem callsOf_append : callsOf (es ++ es') = callsOf es ++ callsOf es' :=
  List.filterMap_append

@[simp] theorem callsOf_event (e : Session.Event) : callsOf (.event e :: es) = callsOf es := rfl

@[simp] theorem callsOf_call (c : Call) : callsOf (.call c :: es) = c :: callsOf es := rfl

@[simp] theorem callsOf_nil : callsOf [] = [] := rfl

@[simp] theorem callsOf_logEffects (xs : List Log.Entry) :
    callsOf (Session.logEffects xs) = [] := by
  refine List.filterMap_eq_nil_iff.mpr fun e he => ?_
  obtain ⟨x, -, rfl⟩ := List.mem_map.mp he
  rfl

@[simp] theorem any_endsStreaming_logEffects (xs : List Log.Entry) :
    (Session.logEffects xs).any Effect.endsStreaming = false := by
  simp [Session.logEffects, Effect.endsStreaming]

@[simp] theorem filter_released_logEffects (xs : List Log.Entry) :
    (Session.logEffects xs).filter (· = .event .released) = [] := by
  simp [Session.logEffects]

end Calls

def asked (now : ℕ) : List (Option (ℕ × Signal)) → Option (ℕ × Signal)
  | [] => none
  | reply :: _ => reply.map fun r => (now + r.1, r.2)

theorem fate?_asked (now : ℕ) (rs : List (Option (ℕ × Signal))) :
    fate? 0 (asked now rs :: rs.tail) = fate? now rs := by
  cases rs with
  | nil => rfl
  | cons reply rs => exact fate?_zero_cons now rs reply

namespace Run

variable (r : Run)

def toCome : List (Option (ℕ × Signal)) :=
  match r.session.phase with
  | .connecting =>
    r.script.send.signal? 0 .sent .sendFailed :: r.script.cues.map Cue.reply
  | .sending | .receiving => r.script.cues.map Cue.reply
  | _ => []

def fate? [Json.Wording] : Option Fate := Rehearsal.fate? 0 (r.answer :: r.toCome)

/-- How many signals can still reach the run. -/
def stock : ℕ :=
  if r.session.phase.isStreaming then r.toCome.length + r.answer.isSome.toNat + 2
  else if r.session.phase.isClosing then 1
  else 0

def Awaits : Prop :=
  ∀ t x, r.answer = some (t, x) → x.isReply = true ∧ r.session.phase.heeds (.signal x) = true

/-- The run has just made the call that the first of some replies is for. -/
structure Asks (now : ℕ) (rs : List (Option (ℕ × Signal))) : Prop where
  streaming : r.session.phase.isStreaming = true
  begun : r.session.phase ≠ .idle
  awaits : r.Awaits
  answer : r.answer = asked now rs
  toCome : r.toCome = rs.tail

def Settled (now : ℕ) : Prop :=
  r.session.isEnded = false → ∀ t x, r.next? = some (t, x) → now < t

variable {r}

/-- The next signal is the earlier one of the answer and the alarm. -/
theorem next?_of_alarm {b : ℕ} {y : Signal} (h : r.alarm? = some (b, y)) :
    ∃ t x, r.next? = some (t, x) ∧ t ≤ b ∧ (∀ t' x', r.answer = some (t', x') → t ≤ t') ∧
      (r.answer = some (t, x) ∨ t = b ∧ x = y ∧ ∀ t' x', r.answer = some (t', x') → b < t') := by
  unfold next?
  rw [h]
  cases ha : r.answer with
  | none => exact ⟨b, y, rfl, le_rfl, by simp, .inr ⟨rfl, rfl, by simp⟩⟩
  | some a =>
    obtain ⟨t, x⟩ := a
    by_cases hle : t ≤ b
    · exact ⟨t, x, by simp [hle], hle, by simp, .inl rfl⟩
    · refine ⟨b, y, by simp [hle], le_rfl, ?_, .inr ⟨rfl, rfl, ?_⟩⟩ <;>
        · rintro t' x' ⟨⟩
          omega

theorem alarm?_of_isStreaming (h : r.session.phase.isStreaming = true)
    (hb : r.session.phase ≠ .idle) : r.alarm? = some (r.deadline, .deadline) := by
  unfold alarm?
  cases hp : r.session.phase <;> simp_all [Phase.isStreaming]

theorem alarm?_of_closing {o : Outcome} {c : Bool} {b : ℕ} (h : r.session.phase = .closing o c)
    (hb : r.closeBy = some b) : r.alarm? = some (b, .closeTimedOut) := by
  simp [alarm?, h, hb]

section Calls

variable {now : ℕ} {rs : List (Option (ℕ × Signal))}

theorem Asks.fate?_eq (h : r.Asks now rs) : r.fate? = Rehearsal.fate? now rs := by
  rw [fate?, h.answer, h.toCome, fate?_asked]

theorem Asks.stock_le (h : r.Asks now rs) : r.stock ≤ rs.length + 2 := by
  rw [stock, if_pos h.streaming, h.answer, h.toCome]
  cases rs with
  | nil => simp [asked]
  | cons reply rs =>
    have := Bool.toNat_le (asked now (reply :: rs)).isSome
    simp only [List.tail_cons, List.length_cons]
    omega

variable (r now)

@[simp] theorem deadline_follow (m : Move) : (r.follow now m).deadline = r.deadline :=
  r.follow_induction now (P := fun r' => r'.deadline = r.deadline) rfl fun r' c h => by
    rw [← h]
    cases c with
    | receive => cases hc : r'.script.cues <;> simp [place, hc]
    | _ => rfl

@[simp] theorem close_follow (m : Move) : (r.follow now m).script.close = r.script.close :=
  r.follow_induction now (P := fun r' => r'.script.close = r.script.close) rfl fun r' c h => by
    rw [← h]
    cases c with
    | receive => cases hc : r'.script.cues <;> simp [place, hc]
    | _ => rfl

theorem follow_of_call {m : Move} {c : Call} (h : callsOf m.effects = [c]) :
    r.follow now m = place now { r with session := m.session } c := by
  simp [follow, h]

variable {r}

theorem asks_connect (address : Address) (token : String)
    (hp : r.session.phase = .connecting) :
    (r.place now (.connect address token)).Asks now
      (r.script.connect.signal? 0 .connected .connectFailed ::
        r.script.send.signal? 0 .sent .sendFailed :: r.script.cues.map Cue.reply) where
  streaming := by simp [hp, Phase.isStreaming]
  begun := by simp [hp]
  awaits := by
    intro t x ha
    obtain ⟨-, rfl | ⟨p, rfl⟩⟩ := signal?_eq_some now ha <;> simp [hp, Phase.heeds, Signal.isReply]
  answer := signal?_eq now _ _ _
  toCome := by simp [toCome, place, hp]

theorem asks_send (text : String) (hp : r.session.phase = .sending) :
    (r.place now (.send text)).Asks now
      (r.script.send.signal? 0 .sent .sendFailed :: r.script.cues.map Cue.reply) where
  streaming := by simp [hp, Phase.isStreaming]
  begun := by simp [hp]
  awaits := by
    intro t x ha
    obtain ⟨-, rfl | ⟨p, rfl⟩⟩ := signal?_eq_some now ha <;> simp [hp, Phase.heeds, Signal.isReply]
  answer := signal?_eq now _ _ _
  toCome := by simp [toCome, place, hp]

theorem asks_receive (hp : r.session.phase = .receiving) :
    (r.place now .receive).Asks now (r.script.cues.map Cue.reply) where
  streaming := by simp [hp, Phase.isStreaming]
  begun := by simp [hp]
  awaits := by
    intro t x ha
    cases hc : r.script.cues with
    | nil => simp [place, hc] at ha
    | cons c cs =>
      simp only [place, hc, Option.some.injEq, Prod.mk.injEq] at ha
      rw [session_place, hp, ← ha.2]
      cases c.delivery <;> exact ⟨rfl, rfl⟩
  answer := by cases hc : r.script.cues <;> simp [place, hc, asked, Cue.reply]
  toCome := by cases hc : r.script.cues <;> simp [place, hc, toCome, hp]

end Calls

section Fates

variable {t : ℕ} {x : Signal}

theorem fate?_of_passing (ha : r.answer = some (t, x)) (hx : x.ending? = none) :
    r.fate? = Rehearsal.fate? t r.toCome := by
  simp [fate?, ha, Rehearsal.fate?, hx]

theorem fate?_of_ending {o : Outcome} {connected : Bool} (ha : r.answer = some (t, x))
    (hx : x.ending? = some (o, connected)) : r.fate? = some ⟨t, o, connected⟩ := by
  simp [fate?, ha, Rehearsal.fate?, hx]

theorem lt_time_of_fate? {b : ℕ} {f : Fate} (h : ∀ t x, r.answer = some (t, x) → b < t)
    (hf : r.fate? = some f) : b < f.time := by
  unfold fate? at hf
  cases ha : r.answer with
  | none =>
    rw [ha] at hf
    cases hf
  | some a =>
    rw [ha] at hf
    have hle := le_time_of_fate? 0 r.toCome hf
    have hlt := h a.1 a.2 ha
    omega

end Fates

section Deliveries

variable {t : ℕ} {x : Signal}

variable (r t x) in
theorem session_deliver : (r.deliver t x).1.session = (r.session.move (.signal x)).session :=
  r.session_follow t _

theorem deliver_of_turn {m : Move} (hs : r.session.Coherent) (h : Turn r.session (.signal x) m) :
    r.deliver t x = (r.follow t m, recordsAt t m.effects) := by
  rw [deliver, ← h.move_eq hs]
  rfl

/-- A reply that does not end the streaming phase makes the run ask for the next one. -/
theorem deliver_passing (hs : r.session.Coherent) (ha : r.answer = some (t, x)) (hw : r.Awaits)
    (hp : r.session.phase.isStreaming = true) (hx : x.ending? = none) :
    (r.deliver t x).1.Asks t r.toCome ∧ decidedAt? (r.deliver t x).2 = none ∧
      releases (r.deliver t x).2 = [] := by
  obtain ⟨hreply, hheeds⟩ := hw t x ha
  obtain ⟨hp', rfl⟩ | ⟨hp', rfl⟩ | ⟨hp', f, rfl⟩ | ⟨p, hp'⟩ | ⟨o, c, e, hp', rfl⟩ :=
    Session.heeds_signal r.session.limits hheeds
  · rw [deliver_of_turn hs (.connected hp'), follow_of_call r t (c := .send _) rfl]
    have hcome : r.toCome =
        r.script.send.signal? 0 .sent .sendFailed :: r.script.cues.map Cue.reply := by
      simp [toCome, hp']
    rw [hcome]
    exact ⟨asks_send t (authText r.session.token) rfl, rfl, rfl⟩
  · rw [deliver_of_turn hs (.sent hp'), follow_of_call r t (c := .receive) rfl]
    have hcome : r.toCome = r.script.cues.map Cue.reply := by simp [toCome, hp']
    rw [hcome]
    exact ⟨asks_receive t rfl, rfl, rfl⟩
  · have hf : f.decision? = none := by simpa [Signal.ending?] using hx
    rw [deliver_of_turn hs (.wentOn hp' hf), follow_of_call r t (c := .receive) (by simp)]
    have hcome : r.toCome = r.script.cues.map Cue.reply := by simp [toCome, hp']
    rw [hcome]
    refine ⟨asks_receive t hp', ?_, ?_⟩
    · simp [decidedAt?_recordsAt, Effect.endsStreaming]
    · simp [releases_recordsAt]
  · rw [Session.ending?_of_fault? hp' hreply] at hx
    cases hx
  · rw [hp'] at hp
    cases hp

theorem deliver_fault {p : Problem} (hs : r.session.Coherent)
    (h : Session.fault? r.session.limits r.session.phase x = some p) :
    (r.deliver t x).1.session.phase = .ended (.ofProblem p) ∧
      decidedAt? (r.deliver t x).2 = some t ∧ releases (r.deliver t x).2 = [t] := by
  rw [deliver_of_turn hs (.broken h)]
  refine ⟨by rw [session_follow], ?_, ?_⟩
  · simp [decidedAt?_recordsAt, Effect.endsStreaming]
  · rw [releases_recordsAt]
    unfold Session.breakEffects
    split_ifs <;> simp

/-- A deciding frame makes the run close, whose time is limited from then on. -/
theorem deliver_deciding {f : Frame} {o : Outcome} {c : Bool} (hs : r.session.Coherent)
    (hp : r.session.phase = .receiving) (hf : f.decision? = some (o, c)) :
    let r' := (r.deliver t (.received f)).1
    r'.session.phase = .closing o c ∧
      r'.answer = r.script.close.signal? t .closed .closeFailed ∧
      r'.closeBy = some (t + Session.closeWait t r.session.limits) ∧
      decidedAt? (r.deliver t (.received f)).2 = some t ∧
      releases (r.deliver t (.received f)).2 = [] := by
  rw [deliver_of_turn hs (.decided hp hf)]
  simp [decidedAt?_recordsAt, releases_recordsAt, Effect.endsStreaming, follow, place]

theorem deliver_closeEnd {o : Outcome} {c : Bool} (e : CloseEnd) (hs : r.session.Coherent)
    (hp : r.session.phase = .closing o c) :
    (r.deliver t e.signal).1.session.phase = .ended o ∧
      releases (r.deliver t e.signal).2 = [t] := by
  rw [deliver_of_turn hs (.settled e hp rfl), session_follow]
  simp [releases_recordsAt]

theorem deliver_of_isEnded (h : r.session.isEnded = true) : r.deliver t x = (r, []) := by
  have hm : r.session.step x = .rest r.session := Session.move_of_isEnded h (.signal x)
  rw [deliver, hm]
  rfl

theorem time_of_mem_recordsAt {now : ℕ} {es : List Effect} {ρ : Record}
    (h : ρ ∈ recordsAt now es) : ρ.time = now := by
  obtain ⟨e, -, rfl⟩ := List.mem_map.mp h
  rfl

theorem time_of_mem_deliver {ρ : Record} (h : ρ ∈ (r.deliver t x).2) : ρ.time = t :=
  time_of_mem_recordsAt h

end Deliveries

end Run

end Testbed.Rehearsal
