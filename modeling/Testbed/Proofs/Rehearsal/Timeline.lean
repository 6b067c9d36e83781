import Testbed.Proofs.Rehearsal.Due

/-!
# Timelines

How far a run has come on the clock. While the run is streaming its fate is still that of its
script; once it has decided it is closing with a connection that was left to it; and it comes to
rest in one of four ways. Whatever is due keeps the timeline, and so does an abort.
-/

namespace Testbed.Rehearsal

open Session (CloseEnd Limits Outcome Phase Signal)

structure Setting where
  start : ℕ
  script : Connection
  limits : Limits

namespace Setting

variable (g : Setting)

def fate? [Json.Wording] : Option Fate := Rehearsal.fate? g.start g.script.replies

def deadline : ℕ := g.start + g.limits.run

def closeBy (e : ℕ) : ℕ := e + Session.closeWait e g.limits

theorem closeBy_le (e : ℕ) : g.closeBy e ≤ e + g.limits.close :=
  Nat.add_le_add_left (Session.closeWait_le e g.limits) e

end Setting

section Stages

variable [Json.Wording]

/-- How a run comes to rest when it is first aborted at the given time, if at all: when its
streaming phase ends, when it is released, and its outcome. -/
inductive Ending (g : Setting) (aborted : Option ℕ) : ℕ → ℕ → Outcome → Prop where
  | lost {e o} (fate : g.fate? = some ⟨e, o, false⟩) (due : e ≤ g.deadline)
    (early : ∀ t, aborted = some t → e ≤ t) : Ending g aborted e e o
  | timedOut (fate : ∀ f, g.fate? = some f → g.deadline < f.time)
    (early : ∀ t, aborted = some t → g.deadline ≤ t) :
    Ending g aborted g.deadline g.deadline .timedOut
  | cancelled {t} (abort : aborted = some t) (due : t < g.deadline)
    (fate : ∀ f, g.fate? = some f → t < f.time) : Ending g aborted t t .cancelled
  | closed {e x o} (fate : g.fate? = some ⟨e, o, true⟩) (due : e ≤ g.deadline) (later : e ≤ x)
    (limit : x ≤ g.closeBy e) (answer : ∀ d, g.script.close.delay? = some d → x ≤ e + d)
    (early : ∀ t, aborted = some t → x ≤ t)
    (cause : x = g.closeBy e ∨ (∃ d, g.script.close.delay? = some d ∧ x = e + d) ∨
      aborted = some x) : Ending g aborted e x o

/-- A run whose fate is still before it. -/
structure Streaming (g : Setting) (es : List Record) (r : Run) : Prop where
  phase : r.session.phase.isStreaming = true
  begun : r.session.phase ≠ .idle
  awaits : r.Awaits
  fate : r.fate? = g.fate?
  deadline : r.deadline = g.deadline
  close : r.script.close = g.script.close
  decided : decidedAt? es = none
  released : releases es = []

/-- A run that its script has decided at some time and left a connection. -/
structure Closing (g : Setting) (e : ℕ) (o : Outcome) (c : Bool) (es : List Record) (r : Run) :
    Prop where
  phase : r.session.phase = .closing o c
  fate : g.fate? = some ⟨e, o, true⟩
  due : e ≤ g.deadline
  answer : r.answer = g.script.close.signal? e .closed .closeFailed
  closeBy : r.closeBy = some (g.closeBy e)
  decided : decidedAt? es = some e
  released : releases es = []

inductive Stage (g : Setting) (aborted : Option ℕ) (es : List Record) (r : Run) : Prop where
  | streaming (h : Streaming g es r) (abort : aborted = none)
  | closing {e o c} (h : Closing g e o c es r) (abort : aborted = none)
  | ended {e x o} (phase : r.session.phase = .ended o) (ending : Ending g aborted e x o)
    (decided : decidedAt? es = some e) (released : releases es = [x])

structure Timeline (g : Setting) (aborted : Option ℕ) (es : List Record) (r : Run) : Prop where
  coherent : r.session.Coherent
  limits : r.session.limits = g.limits
  bounded : ∀ ρ ∈ es, ρ.time ≤ g.deadline + g.limits.close
  stage : Stage g aborted es r

end Stages

section Moments

variable {_ : Json.Wording} {g : Setting} {es : List Record} {r : Run} {t now : ℕ} {x : Signal}

/-- The next signal in the streaming phase is a reply or, if none comes in time, the deadline. -/
theorem Streaming.next (h : Streaming g es r) (hn : r.next? = some (t, x)) :
    t ≤ g.deadline ∧ (r.answer = some (t, x) ∨
      t = g.deadline ∧ x = .deadline ∧ ∀ f, g.fate? = some f → g.deadline < f.time) := by
  obtain ⟨t', x', hn', hle, -, hcause⟩ :=
    Run.next?_of_alarm (Run.alarm?_of_isStreaming h.phase h.begun)
  obtain ⟨rfl, rfl⟩ := Prod.mk.inj (Option.some.inj (hn'.symm.trans hn))
  rw [h.deadline] at hle hcause
  refine ⟨hle, ?_⟩
  rcases hcause with ha | ⟨ht, hx, hlater⟩
  · exact .inl ha
  · exact .inr ⟨ht, hx, fun f hf => Run.lt_time_of_fate? hlater (h.fate.trans hf)⟩

theorem Streaming.lt_of_settled (h : Streaming g es r) (hs : r.Settled now) :
    now < g.deadline ∧ ∀ f, g.fate? = some f → now < f.time := by
  obtain ⟨t, x, hn, hle, hfirst, -⟩ :=
    Run.next?_of_alarm (Run.alarm?_of_isStreaming h.phase h.begun)
  have hnow : now < t := hs (Session.isEnded_of_isStreaming h.phase) t x hn
  refine ⟨h.deadline ▸ hnow.trans_le hle, fun f hf => ?_⟩
  exact Run.lt_time_of_fate? (fun t' x' ha => hnow.trans_le (hfirst t' x' ha)) (h.fate.trans hf)

variable {e : ℕ} {o : Outcome} {c : Bool}

/-- No end of closing is due before the next signal. -/
theorem Closing.next?_le (h : Closing g e o c es r) :
    ∃ t x, r.next? = some (t, x) ∧ t ≤ g.closeBy e ∧
      (∀ d, g.script.close.delay? = some d → t ≤ e + d) ∧
      (r.answer = some (t, x) ∨ t = g.closeBy e ∧ x = .closeTimedOut) := by
  obtain ⟨t, x, hn, hle, hfirst, hcause⟩ :=
    Run.next?_of_alarm (Run.alarm?_of_closing h.phase h.closeBy)
  refine ⟨t, x, hn, hle, fun d hd => ?_, hcause.imp_right fun hc => ⟨hc.1, hc.2.1⟩⟩
  obtain ⟨y, hy⟩ := signal?_of_delay? e hd Signal.closed Signal.closeFailed
  exact hfirst _ y (h.answer.trans hy)

/-- The next signal while closing is the answer to the close or the end of the wait for it. -/
theorem Closing.next (h : Closing g e o c es r) (hn : r.next? = some (t, x)) :
    e ≤ t ∧ t ≤ g.closeBy e ∧ (∀ d, g.script.close.delay? = some d → t ≤ e + d) ∧
      (t = g.closeBy e ∨ ∃ d, g.script.close.delay? = some d ∧ t = e + d) ∧
      ∃ ce : CloseEnd, x = ce.signal := by
  obtain ⟨t', x', hn', hle, hanswer, hcause⟩ := h.next?_le
  obtain ⟨rfl, rfl⟩ := Prod.mk.inj (Option.some.inj (hn'.symm.trans hn))
  rcases hcause with ha | ⟨rfl, rfl⟩
  · obtain ⟨⟨d, hd, rfl⟩, hx⟩ := signal?_eq_some e (h.answer.symm.trans ha)
    refine ⟨Nat.le_add_right _ _, hle, hanswer, .inr ⟨d, hd, rfl⟩, ?_⟩
    rcases hx with rfl | ⟨p, rfl⟩
    · exact ⟨.acknowledged, rfl⟩
    · exact ⟨.failed p, rfl⟩
  · exact ⟨Nat.le_add_right _ _, hle, hanswer, .inl rfl, .timedOut, rfl⟩

theorem Closing.lt_of_settled (h : Closing g e o c es r) (hs : r.Settled now) :
    now < g.closeBy e ∧ ∀ d, g.script.close.delay? = some d → now < e + d := by
  obtain ⟨t, x, hn, hle, hanswer, -⟩ := h.next?_le
  have hnow : now < t := hs (by simp [Session.isEnded, h.phase]) t x hn
  exact ⟨hnow.trans_le hle, fun d hd => hnow.trans_le (hanswer d hd)⟩

end Moments

section Steps

variable {_ : Json.Wording} {g : Setting} {aborted : Option ℕ} {es : List Record} {r : Run} {t : ℕ}
  {x : Signal}

theorem Ending.of_late {e x o} (h : Ending g none e x o) {now : ℕ} (hx : x ≤ now) :
    Ending g (some now) e x o := by
  have hlate (t : ℕ) (ht : some now = some t) : x ≤ t := Option.some.inj ht ▸ hx
  cases h with
  | lost fate due => exact .lost fate due hlate
  | timedOut fate => exact .timedOut fate hlate
  | cancelled abort => cases abort
  | closed fate due later limit answer early cause =>
    refine .closed fate due later limit answer hlate ?_
    rcases cause with h | h | h
    · exact .inl h
    · exact .inr (.inl h)
    · cases h

theorem Timeline.of_stage (h : Timeline g aborted es r) {aborted' : Option ℕ}
    (ht : t ≤ g.deadline + g.limits.close)
    (stage : Stage g aborted' (es ++ (r.deliver t x).2) (r.deliver t x).1) :
    Timeline g aborted' (es ++ (r.deliver t x).2) (r.deliver t x).1 where
  coherent := r.session_deliver t x ▸ Session.coherent_move h.coherent _
  limits := by
    rw [Run.session_deliver, (Session.turn_move h.coherent _).limits_eq, h.limits]
  bounded := by
    intro ρ hρ
    rcases List.mem_append.mp hρ with hρ | hρ
    · exact h.bounded ρ hρ
    · rwa [Run.time_of_mem_deliver hρ]
  stage := stage

theorem stock_of_isStreaming (hp : r.session.phase.isStreaming = true) :
    r.stock = r.toCome.length + r.answer.isSome.toNat + 2 := if_pos hp

theorem stock_of_closing {o : Outcome} {c : Bool} (hp : r.session.phase = .closing o c) :
    r.stock = 1 := by
  simp [Run.stock, hp, Phase.isStreaming, Phase.isClosing]

theorem stock_of_ended {o : Outcome} (hp : r.session.phase = .ended o) : r.stock = 0 := by
  simp [Run.stock, hp, Phase.isStreaming, Phase.isClosing]

theorem Timeline.of_passing (h : Timeline g none es r) (hs : Streaming g es r)
    (ha : r.answer = some (t, x)) (hx : x.ending? = none) (ht : t ≤ g.deadline) :
    Timeline g none (es ++ (r.deliver t x).2) (r.deliver t x).1 ∧
      (r.deliver t x).1.stock < r.stock := by
  obtain ⟨hasks, hdecided, hreleased⟩ :=
    Run.deliver_passing h.coherent ha hs.awaits hs.phase hx
  have hstreaming : Streaming g (es ++ (r.deliver t x).2) (r.deliver t x).1 :=
    { phase := hasks.streaming
      begun := hasks.begun
      awaits := hasks.awaits
      fate := by rw [hasks.fate?_eq, ← hs.fate, Run.fate?_of_passing ha hx]
      deadline := by rw [Run.deliver, Run.deadline_follow, hs.deadline]
      close := by rw [Run.deliver, Run.close_follow, hs.close]
      decided := by rw [decidedAt?_append, hs.decided, hdecided, Option.or_none]
      released := by rw [releases_append, hs.released, hreleased, List.append_nil] }
  refine ⟨h.of_stage (ht.trans (Nat.le_add_right _ _)) (.streaming hstreaming rfl), ?_⟩
  have hstock := hasks.stock_le
  rw [stock_of_isStreaming hs.phase, ha]
  simp only [Option.isSome_some, Bool.toNat_true]
  omega

theorem Timeline.of_deciding (h : Timeline g none es r) (hs : Streaming g es r) {f : Frame}
    {o : Outcome} {c : Bool} (hp : r.session.phase = .receiving)
    (hf : f.decision? = some (o, c)) (hfate : g.fate? = some ⟨t, o, true⟩) (ht : t ≤ g.deadline) :
    Timeline g none (es ++ (r.deliver t (.received f)).2) (r.deliver t (.received f)).1 ∧
      (r.deliver t (.received f)).1.stock < r.stock := by
  obtain ⟨hphase, hanswer, hcloseBy, hdecided, hreleased⟩ :=
    Run.deliver_deciding (t := t) h.coherent hp hf
  have hclosing : Closing g t o c (es ++ (r.deliver t (.received f)).2)
      (r.deliver t (.received f)).1 :=
    { phase := hphase
      fate := hfate
      due := ht
      answer := by rw [hanswer, hs.close]
      closeBy := by rw [hcloseBy, h.limits, Setting.closeBy]
      decided := by rw [decidedAt?_append, hs.decided, hdecided, Option.none_or]
      released := by rw [releases_append, hs.released, hreleased, List.append_nil] }
  refine ⟨h.of_stage (ht.trans (Nat.le_add_right _ _)) (.closing hclosing rfl), ?_⟩
  rw [stock_of_closing hphase, stock_of_isStreaming hs.phase]
  omega

theorem Timeline.of_fault (h : Timeline g none es r) (hs : Streaming g es r) {p : Problem}
    (hp : Session.fault? r.session.limits r.session.phase x = some p) (ht : t ≤ g.deadline)
    (ending : Ending g aborted t t (.ofProblem p)) :
    Timeline g aborted (es ++ (r.deliver t x).2) (r.deliver t x).1 ∧
      (r.deliver t x).1.stock < r.stock := by
  obtain ⟨hphase, hdecided, hreleased⟩ := Run.deliver_fault (t := t) h.coherent hp
  refine ⟨h.of_stage (ht.trans (Nat.le_add_right _ _)) (.ended hphase ending ?_ ?_), ?_⟩
  · rw [decidedAt?_append, hs.decided, hdecided, Option.none_or]
  · rw [releases_append, hs.released, hreleased, List.nil_append]
  · rw [stock_of_ended hphase, stock_of_isStreaming hs.phase]
    omega

theorem Timeline.of_closeEnd (h : Timeline g none es r) {e : ℕ} {o : Outcome} {c : Bool}
    (hc : Closing g e o c es r) (ce : CloseEnd) (ht : t ≤ g.closeBy e)
    (ending : Ending g aborted e t o) :
    Timeline g aborted (es ++ (r.deliver t ce.signal).2) (r.deliver t ce.signal).1 ∧
      (r.deliver t ce.signal).1.stock < r.stock := by
  obtain ⟨hphase, hreleased⟩ := Run.deliver_closeEnd (t := t) ce h.coherent hc.phase
  have hbound : t ≤ g.deadline + g.limits.close :=
    ht.trans ((g.closeBy_le e).trans (Nat.add_le_add_right hc.due _))
  refine ⟨h.of_stage hbound (.ended hphase ending ?_ ?_), ?_⟩
  · rw [decidedAt?_append, hc.decided, Option.some_or]
  · rw [releases_append, hc.released, hreleased, List.nil_append]
  · rw [stock_of_ended hphase, stock_of_closing hc.phase]
    omega

theorem Timeline.due_streaming (h : Timeline g none es r) (hs : Streaming g es r)
    (hn : r.next? = some (t, x)) :
    Timeline g none (es ++ (r.deliver t x).2) (r.deliver t x).1 ∧
      (r.deliver t x).1.stock < r.stock := by
  obtain ⟨hle, ha | ⟨rfl, rfl, hlate⟩⟩ := hs.next hn
  · cases hx : x.ending? with
    | none => exact h.of_passing hs ha hx hle
    | some ending =>
      obtain ⟨o, connected⟩ := ending
      obtain ⟨hreply, hheeds⟩ := hs.awaits t x ha
      have hfate : g.fate? = some ⟨t, o, connected⟩ := by
        rw [← hs.fate, Run.fate?_of_ending ha hx]
      obtain ⟨rfl, p, hp, rfl⟩ | ⟨rfl, hp, f, c, rfl, hf⟩ :=
        Session.fault_or_deciding r.session.limits hs.phase hheeds hreply hx
      · exact h.of_fault hs hp hle (.lost hfate hle (by simp))
      · exact h.of_deciding hs hp hf hfate hle
  · have hp := (Session.fault?_of_isStreaming r.session.limits hs.phase).1
    exact h.of_fault hs hp le_rfl (.timedOut hlate (by simp))

theorem Timeline.due_closing (h : Timeline g none es r) {e : ℕ} {o : Outcome} {c : Bool}
    (hc : Closing g e o c es r) (hn : r.next? = some (t, x)) :
    Timeline g none (es ++ (r.deliver t x).2) (r.deliver t x).1 ∧
      (r.deliver t x).1.stock < r.stock := by
  obtain ⟨hlater, hlimit, hanswer, hcause, ce, rfl⟩ := hc.next hn
  refine h.of_closeEnd hc ce hlimit
    (.closed hc.fate hc.due hlater hlimit hanswer (by simp) ?_)
  exact hcause.imp_right .inl

/-- What is due keeps the timeline, and there is less of it to come. -/
theorem Timeline.due (h : Timeline g aborted es r) (he : r.session.isEnded = false)
    (hn : r.next? = some (t, x)) :
    Timeline g aborted (es ++ (r.deliver t x).2) (r.deliver t x).1 ∧
      (r.deliver t x).1.stock < r.stock := by
  cases h.stage with
  | streaming hs abort =>
    subst abort
    exact h.due_streaming hs hn
  | closing hc abort =>
    subst abort
    exact h.due_closing hc hn
  | ended phase => simp [Session.isEnded, phase] at he

theorem unfold_of_isEnded (limit : Option ℕ) (fuel : ℕ) (he : r.session.isEnded = true) :
    r.unfold limit fuel = (r, []) := by
  induction fuel with
  | zero => rfl
  | succ fuel ih =>
    rw [Run.unfold]
    cases r.next? with
    | none => rfl
    | some a => simp [Run.deliver_of_isEnded he, ih]

theorem unfold_of_settled {limit : ℕ} (hs : r.Settled limit) (fuel : ℕ) :
    r.unfold (some limit) fuel = (r, []) := by
  cases he : r.session.isEnded with
  | true => exact unfold_of_isEnded _ _ he
  | false =>
    cases fuel with
    | zero => rfl
    | succ fuel =>
      rw [Run.unfold]
      cases hn : r.next? with
      | none => rfl
      | some a => simp [hs he a.1 a.2 hn]

theorem advanceTo_of_settled {limit : ℕ} (hs : r.Settled limit) : r.advanceTo limit = (r, []) :=
  unfold_of_settled hs _

/-- With fuel for all that can still come, everything that is due by the limit happens. -/
theorem Timeline.unfold (h : Timeline g aborted es r) (limit fuel : ℕ) (hfuel : r.stock ≤ fuel) :
    Timeline g aborted (es ++ (r.unfold (some limit) fuel).2) (r.unfold (some limit) fuel).1 ∧
      (r.unfold (some limit) fuel).1.Settled limit ∧
      ∀ ρ ∈ (r.unfold (some limit) fuel).2, ρ.time ≤ limit := by
  induction fuel generalizing r es with
  | zero =>
    refine ⟨by simpa [Run.unfold] using h, ?_, by simp [Run.unfold]⟩
    -- a run without stock has come to rest
    intro he
    cases h.stage with
    | streaming hs => simp [stock_of_isStreaming hs.phase] at hfuel
    | closing hc => simp [stock_of_closing hc.phase] at hfuel
    | ended phase => simp [Run.unfold, Session.isEnded, phase] at he
  | succ fuel ih =>
    cases he : r.session.isEnded with
    | true =>
      rw [unfold_of_isEnded _ _ he]
      exact ⟨by simpa using h, fun he' => by simp [he] at he', by simp⟩
    | false =>
      rw [Run.unfold]
      cases hn : r.next? with
      | none => exact ⟨by simpa using h, fun _ t x ht => by simp [hn] at ht, by simp⟩
      | some a =>
        obtain ⟨t, x⟩ := a
        by_cases hlt : limit < t
        · simp only [Option.any_some, hlt, decide_true, if_true, List.append_nil]
          refine ⟨h, fun _ t' x' ht' => ?_, by simp⟩
          obtain ⟨rfl, rfl⟩ := Prod.mk.inj (Option.some.inj (hn.symm.trans ht'))
          exact hlt
        · simp only [Option.any_some, hlt, decide_false, Bool.false_eq_true, if_false]
          obtain ⟨hdue, hstock⟩ := h.due he hn
          obtain ⟨htimeline, hsettled, htimes⟩ := ih hdue (by omega)
          refine ⟨by simpa using htimeline, hsettled, ?_⟩
          intro ρ hρ
          rcases List.mem_append.mp hρ with hρ | hρ
          · rw [Run.time_of_mem_deliver hρ]
            omega
          · exact htimes ρ hρ

theorem stock_le_potential (r : Run) : r.stock ≤ r.potential := by
  have hanswer := Bool.toNat_le r.answer.isSome
  unfold Run.stock Run.potential Run.toCome
  cases r.session.phase <;> simp [Phase.isStreaming, Phase.isClosing] <;> omega

/-- A run that has not come to rest waits for something that comes. -/
theorem Timeline.exists_next? (h : Timeline g aborted es r) (he : r.session.isEnded = false) :
    ∃ t x, r.next? = some (t, x) := by
  cases h.stage with
  | streaming hs =>
    obtain ⟨t, x, hn, -⟩ := Run.next?_of_alarm (Run.alarm?_of_isStreaming hs.phase hs.begun)
    exact ⟨t, x, hn⟩
  | closing hc =>
    obtain ⟨t, x, hn, -⟩ := hc.next?_le
    exact ⟨t, x, hn⟩
  | ended phase => simp [Session.isEnded, phase] at he

/-- Without a limit everything that can still come happens, and the run comes to rest. -/
theorem Timeline.exists_ended (h : Timeline g aborted es r) {fuel : ℕ} (hfuel : r.stock ≤ fuel) :
    ∃ o, (r.unfold none fuel).1.session.phase = .ended o := by
  induction fuel generalizing r es with
  | zero =>
    cases h.stage with
    | streaming hs => simp [stock_of_isStreaming hs.phase] at hfuel
    | closing hc => simp [stock_of_closing hc.phase] at hfuel
    | ended phase => exact ⟨_, phase⟩
  | succ fuel ih =>
    cases he : r.session.isEnded with
    | true =>
      rw [unfold_of_isEnded _ _ he]
      cases h.stage with
      | streaming hs => simp [Session.isEnded_of_isStreaming hs.phase] at he
      | closing hc => simp [Session.isEnded, hc.phase] at he
      | ended phase => exact ⟨_, phase⟩
    | false =>
      obtain ⟨t, x, hn⟩ := h.exists_next? he
      obtain ⟨hdue, hstock⟩ := h.due he hn
      rw [Run.unfold, hn]
      exact ih hdue (Nat.le_of_lt_succ (hstock.trans_le hfuel))

structure OnTime [Json.Wording] (g : Setting) (aborted : Option ℕ) (now : ℕ) (es : List Record)
    (r : Run) : Prop where
  timeline : Timeline g aborted es r
  started : g.start ≤ now
  interrupted : ∀ t, aborted = some t → g.start ≤ t
  settled : r.Settled now
  past : ∀ ρ ∈ es, ρ.time ≤ now

theorem Timeline.advanceTo (h : Timeline g aborted es r) {now : ℕ} (started : g.start ≤ now)
    (interrupted : ∀ t, aborted = some t → g.start ≤ t) (past : ∀ ρ ∈ es, ρ.time ≤ now) :
    OnTime g aborted now (es ++ (r.advanceTo now).2) (r.advanceTo now).1 := by
  obtain ⟨htimeline, hsettled, htimes⟩ := h.unfold now r.potential (stock_le_potential r)
  refine ⟨htimeline, started, interrupted, hsettled, fun ρ hρ => ?_⟩
  exact (List.mem_append.mp hρ).elim (past ρ) (htimes ρ)

theorem OnTime.advanceTo {now : ℕ} (h : OnTime g aborted now es r) {time : ℕ}
    (hle : now ≤ time) :
    OnTime g aborted time (es ++ (r.advanceTo time).2) (r.advanceTo time).1 :=
  h.timeline.advanceTo (h.started.trans hle) h.interrupted fun ρ hρ => (h.past ρ hρ).trans hle

theorem OnTime.decided_le {now e : ℕ} (h : OnTime g aborted now es r)
    (he : decidedAt? es = some e) : e ≤ now := by
  obtain ⟨ρ, hρ, rfl⟩ := exists_record_of_decidedAt? he
  exact h.past ρ hρ

theorem OnTime.released_le {now x : ℕ} (h : OnTime g aborted now es r)
    (hx : releases es = [x]) : x ≤ now := by
  obtain ⟨ρ, hρ, rfl⟩ := exists_record_of_mem_releases (hx ▸ List.mem_singleton_self x)
  exact h.past ρ hρ

theorem OnTime.of_ended {now : ℕ} (h : OnTime g aborted now es r) {o : Outcome}
    (htimeline : Timeline g (some now) (es ++ (r.deliver now x).2) (r.deliver now x).1)
    (hp : (r.deliver now x).1.session.phase = .ended o) :
    OnTime g (some now) now (es ++ (r.deliver now x).2) (r.deliver now x).1 where
  timeline := htimeline
  started := h.started
  interrupted _ ht := Option.some.inj ht ▸ h.started
  settled he := by simp [Session.isEnded, hp] at he
  past := by
    intro ρ hρ
    rcases List.mem_append.mp hρ with hρ | hρ
    · exact h.past ρ hρ
    · exact (Run.time_of_mem_deliver hρ).le

/-- An abort interrupts a run that has not come to rest, and only the first abort can. -/
theorem OnTime.abort {now : ℕ} (h : OnTime g aborted now es r) :
    OnTime g (aborted.or (some now)) now (es ++ (r.deliver now .abort).2)
      (r.deliver now .abort).1 := by
  have hcoherent := h.timeline.coherent
  cases h.timeline.stage with
  | streaming hs abort =>
    subst abort
    obtain ⟨hdeadline, hfate⟩ := hs.lt_of_settled h.settled
    have hp := (Session.fault?_of_isStreaming r.session.limits hs.phase).2
    have hending := h.timeline.of_fault hs hp hdeadline.le (.cancelled rfl hdeadline hfate)
    exact h.of_ended hending.1 (Run.deliver_fault hcoherent hp).1
  | closing hc abort =>
    subst abort
    obtain ⟨hlimit, hanswer⟩ := hc.lt_of_settled h.settled
    have hending := h.timeline.of_closeEnd hc .cutShort hlimit.le
      (.closed hc.fate hc.due (h.decided_le hc.decided) hlimit.le (fun d hd => (hanswer d hd).le)
        (fun t ht => (Option.some.inj ht).le) (.inr (.inr rfl)))
    exact h.of_ended hending.1 (Run.deliver_closeEnd .cutShort hcoherent hc.phase).1
  | ended phase ending decided released =>
    -- nothing happens, but an abort that is the first one is now on record
    have hrest : r.deliver now .abort = (r, []) :=
      Run.deliver_of_isEnded (by simp [Session.isEnded, phase])
    rw [hrest, List.append_nil]
    cases aborted with
    | some t => exact h
    | none =>
      have hstage : Stage g (some now) es r :=
        .ended phase (ending.of_late (h.released_le released)) decided released
      exact ⟨{ h.timeline with stage := hstage }, h.started,
        fun t ht => Option.some.inj ht ▸ h.started, h.settled, h.past⟩

/-- A run that has been opened has the fate of its script before it. -/
theorem timeline_opened [Json.Wording] (now : ℕ) (k : Connection) (address : Address)
    (token : String) (limits : Limits) :
    let opened := Run.opened now (now + limits.run) k (.create address token limits)
    Timeline ⟨now, k, limits⟩ none opened.2 opened.1 ∧ ∀ ρ ∈ opened.2, ρ.time = now := by
  intro opened
  let r : Run := ⟨⟨address, token, limits, .connecting, .connecting,
    [Session.connectEntry address]⟩, k, now + limits.run, none, none⟩
  have hopened : opened = (r.place now (.connect address token),
      recordsAt now [.event (.state .connecting), .event (.log (Session.connectEntry address)),
        .call (.connect address token)]) := rfl
  have hasks : (r.place now (.connect address token)).Asks now k.replies :=
    Run.asks_connect now address token rfl
  rw [hopened]
  refine ⟨⟨rfl, rfl, fun ρ hρ => ?_, .streaming ⟨hasks.streaming, hasks.begun, hasks.awaits,
    hasks.fate?_eq, rfl, rfl, rfl, rfl⟩ rfl⟩, fun ρ => Run.time_of_mem_recordsAt⟩
  rw [Run.time_of_mem_recordsAt hρ]
  simp only [Setting.deadline]
  omega

end Steps

end Testbed.Rehearsal
