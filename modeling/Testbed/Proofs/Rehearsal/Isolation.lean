import Testbed.Proofs.Gives
import Testbed.Proofs.Rehearsal.Life
import Testbed.Proofs.Rehearsal.Timing
import Testbed.Proofs.Runner.Gate

/-!
# Runs apart from one another

Nothing is left of the runs that a runner has had before. A run that starts later does all that it
would do as the first run of a new runner, later by the time of its start: its beginning is the same
one, delayed, and a run whose beginning is delayed leads the same life, delayed. Only the end of the
clock makes a difference, where it does not show any more what a run waits for.
-/

namespace Testbed

/-- The clock shows the deadline of a run that starts now, and the ends of its waits as it does from
its origin on. -/
structure Session.Limits.ShownFrom (l : Session.Limits) (now : ℕ) : Prop where
  deadline : Session.deadline? now l ≠ none
  close : ∀ e ≤ l.run, Session.closeWait (now + e) l = Session.closeWait e l

theorem Session.Limits.shownFrom_of_lt {l : Session.Limits} {now : ℕ}
    (h : (now + l.run + l.close) / 1000 < Session.clockSeconds) : l.ShownFrom now where
  deadline := by
    have hrun : (now + l.run) / 1000 < Session.clockSeconds := by omega
    simp [Session.deadline?, hrun]
  close e he := by
    have hlater : (now + e + l.close) / 1000 < Session.clockSeconds := by omega
    have hclose : (e + l.close) / 1000 < Session.clockSeconds := by omega
    simp [Session.closeWait, hlater, hclose]

theorem Session.Limits.ShownFrom.deadline_eq {l : Session.Limits} {now : ℕ} (h : l.ShownFrom now) :
    Session.deadline? now l = some (now + l.run) ∧ Session.deadline? 0 l = some (0 + l.run) := by
  obtain ⟨d, hd⟩ := Option.ne_none_iff_exists'.mp h.deadline
  refine ⟨Session.eq_of_deadline? hd ▸ hd, ?_⟩
  unfold Session.deadline? at hd ⊢
  split_ifs at hd with hnow
  exact if_pos (by omega)

namespace Rehearsal

open Session (Call Effect Limits Move Signal Stimulus Turn)

/-- Only a session that receives a frame may call for a close. -/
theorem received_of_close [Json.Wording] {s : Session} {x : Stimulus} {m : Move} (h : Turn s x m)
    (hc : Call.close ∈ callsOf m.effects) :
    s.phase = .receiving ∧ ∃ f, x = .signal (.received f) := by
  cases h with
  | decided hp => exact ⟨hp, _, rfl⟩
  | broken hp =>
    unfold Session.breakEffects at hc
    split_ifs at hc <;> simp at hc
  | _ => simp [Move.rest] at hc

section Delays

variable {_ : Json.Wording} (d : ℕ)

def Record.delayed (ρ : Record) : Record := ⟨d + ρ.time, ρ.effect⟩

def delayedSignal (a : ℕ × Signal) : ℕ × Signal := (d + a.1, a.2)

def Run.delayed (r : Run) : Run :=
  { r with
    deadline := d + r.deadline
    closeBy := r.closeBy.map (d + ·)
    answer := r.answer.map (delayedSignal d) }

def delayed (moved : Run × List Record) : Run × List Record :=
  (moved.1.delayed d, moved.2.map (Record.delayed d))

variable (r : Run) (now t : ℕ)

theorem signal?_delayed (a : Act) (ok : Signal) (failed : Problem → Signal) :
    a.signal? (d + now) ok failed = (a.signal? now ok failed).map (delayedSignal d) := by
  unfold Act.signal?
  split <;> simp [delayedSignal, Nat.add_assoc]

theorem place_delayed (c : Call)
    (hc : c = .close →
      Session.closeWait (d + now) r.session.limits = Session.closeWait now r.session.limits) :
    (r.delayed d).place (d + now) c = (r.place now c).delayed d := by
  cases c with
  | connect | send => simp [Run.place, Run.delayed, signal?_delayed]
  | receive =>
    cases hc : r.script.cues <;> simp [Run.place, Run.delayed, hc, delayedSignal, Nat.add_assoc]
  | close => simp [Run.place, Run.delayed, signal?_delayed, hc, Nat.add_assoc]
  | drop => rfl

theorem follow_delayed (m : Move)
    (hm : .close ∈ callsOf m.effects →
      Session.closeWait (d + now) m.session.limits = Session.closeWait now m.session.limits) :
    (r.delayed d).follow (d + now) m = (r.follow now m).delayed d := by
  have hcalls (cs : List Call) (r : Run)
      (hcs : .close ∈ cs →
        Session.closeWait (d + now) r.session.limits = Session.closeWait now r.session.limits) :
      cs.foldl (Run.place (d + now)) (r.delayed d) = (cs.foldl (Run.place now) r).delayed d := by
    induction cs generalizing r with
    | nil => rfl
    | cons c cs ih =>
      rw [List.foldl_cons, List.foldl_cons, place_delayed, ih]
      · rw [Run.session_place]
        exact fun h => hcs (List.mem_cons_of_mem _ h)
      · exact fun h => hcs (h ▸ List.mem_cons_self)
  exact hcalls (callsOf m.effects) { r with session := m.session } hm

theorem recordsAt_delayed (es : List Effect) :
    recordsAt (d + now) es = (recordsAt now es).map (Record.delayed d) := by
  simp [recordsAt, Record.delayed, Function.comp_def]

theorem next?_delayed : (r.delayed d).next? = r.next?.map (delayedSignal d) := by
  have halarm : (r.delayed d).alarm? = r.alarm?.map (delayedSignal d) := by
    simp only [Run.alarm?, Run.delayed]
    cases r.session.phase with
    | closing o c => simp [delayedSignal, Function.comp_def]
    | _ => rfl
  have hanswer : (r.delayed d).answer = r.answer.map (delayedSignal d) := rfl
  rw [Run.next?, Run.next?, halarm, hanswer]
  cases r.answer with
  | none => rfl
  | some a =>
    cases r.alarm? with
    | none => rfl
    | some b => by_cases hle : a.1 ≤ b.1 <;> simp [delayedSignal, hle]

theorem deliver_delayed (x : Signal)
    (hx : .close ∈ callsOf (r.session.step x).effects →
      Session.closeWait (d + t) (r.session.step x).session.limits =
        Session.closeWait t (r.session.step x).session.limits) :
    (r.delayed d).deliver (d + t) x = delayed d (r.deliver t x) := by
  have hfollow := follow_delayed d r t (r.session.step x) hx
  rw [Run.deliver, recordsAt_delayed]
  exact congrArg (·, _) hfollow

theorem andThen_delayed {next next' : Run → Run × List Record} {moved : Run × List Record}
    (h : next' (moved.1.delayed d) = delayed d (next moved.1)) :
    andThen (delayed d moved) next' = delayed d (andThen moved next) := by
  simp [andThen, delayed, h]

structure Run.Delayable : Prop where
  coherent : r.session.Coherent
  close : ∀ e ≤ r.deadline,
    Session.closeWait (d + e) r.session.limits = Session.closeWait e r.session.limits

variable {d r t}

theorem Run.Delayable.deliver (h : r.Delayable d) (x : Signal) :
    (r.deliver t x).1.Delayable d where
  coherent := by
    rw [Run.session_deliver]
    exact Session.coherent_move h.coherent _
  close e he := by
    rw [Run.session_deliver, (Session.turn_move h.coherent _).limits_eq]
    exact h.close e (by rwa [Run.deliver, Run.deadline_follow] at he)

/-- What is due while the run receives is due by its deadline. -/
theorem Run.Delayable.due (h : r.Delayable d) {x : Signal} (hn : r.next? = some (t, x)) :
    (r.delayed d).deliver (d + t) x = Rehearsal.delayed d (r.deliver t x) := by
  have hturn := Session.turn_move h.coherent (.signal x)
  refine deliver_delayed d r t x fun hc => ?_
  obtain ⟨hp, -⟩ := received_of_close hturn hc
  obtain ⟨t', x', hn', hle, -⟩ := Run.next?_of_alarm
    (Run.alarm?_of_isStreaming (r := r) (by simp [hp, Session.Phase.isStreaming]) (by simp [hp]))
  obtain ⟨rfl, rfl⟩ := Prod.mk.inj (Option.some.inj (hn'.symm.trans hn))
  have hlimits : (r.session.step x').session.limits = r.session.limits := hturn.limits_eq
  rw [hlimits]
  exact h.close t' hle

theorem Run.Delayable.abort (h : r.Delayable d) (t : ℕ) :
    (r.delayed d).deliver (d + t) .abort = Rehearsal.delayed d (r.deliver t .abort) := by
  refine deliver_delayed d r t .abort fun hc => ?_
  obtain ⟨-, f, hf⟩ := received_of_close (Session.turn_move h.coherent (.signal .abort)) hc
  cases hf

theorem Run.Delayable.unfold (h : r.Delayable d) (fuel : ℕ) :
    (r.unfold (some t) fuel).1.Delayable d ∧
      (r.delayed d).unfold (some (d + t)) fuel = Rehearsal.delayed d (r.unfold (some t) fuel) := by
  induction fuel generalizing r with
  | zero => exact ⟨h, rfl⟩
  | succ fuel ih =>
    by_cases hdue : ∃ s x, r.next? = some (s, x) ∧ s ≤ t
    · obtain ⟨s, x, hn, hst⟩ := hdue
      have hn' : (r.delayed d).next? = some (d + s, x) := by rw [next?_delayed, hn]; rfl
      obtain ⟨hkept, hrest⟩ := ih (h.deliver (t := s) x)
      rw [unfold_succ_of_due hn hst, unfold_succ_of_due hn' (Nat.add_le_add_left hst d),
        h.due hn, andThen_delayed d hrest]
      exact ⟨hkept, rfl⟩
    · have hnot (s : ℕ) (x : Signal) (hn : r.next? = some (s, x)) : t < s :=
        Nat.lt_of_not_le fun hst => hdue ⟨s, x, hn, hst⟩
      have hnot' (s : ℕ) (x : Signal) (hn : (r.delayed d).next? = some (s, x)) : d + t < s := by
        rw [next?_delayed] at hn
        obtain ⟨⟨s', x'⟩, hn', hs⟩ := Option.map_eq_some_iff.mp hn
        obtain ⟨rfl, rfl⟩ := Prod.mk.inj hs
        exact Nat.add_lt_add_left (hnot s' x' hn') d
      rw [unfold_of_not_due hnot, unfold_of_not_due hnot']
      exact ⟨h, rfl⟩

theorem Run.Delayable.advanceTo (h : r.Delayable d) (t : ℕ) :
    (r.advanceTo t).1.Delayable d ∧
      (r.delayed d).advanceTo (d + t) = Rehearsal.delayed d (r.advanceTo t) := h.unfold r.potential

/-- The beginning of a run at the time `d` is the one at the origin of the clock, delayed. -/
theorem begin_delayed {l : Limits} (hl : l.ShownFrom d) (k : Connection) (a : Address)
    (token : String) :
    let begun := Run.begin 0 k (.create a token l)
    begun.1.Delayable d ∧ Run.begin d k (.create a token l) = delayed d begun := by
  intro begun
  obtain ⟨hlater, hfirst⟩ := hl.deadline_eq
  let s := Session.create a token l
  let r : Run := ⟨s, k, 0 + l.run, none, none⟩
  have hturn : Turn s .begin s.start := Session.turn_begin (Session.coherent_create a token l) rfl
  have hnoclose : Call.close ∉ callsOf s.start.effects := fun hc => by
    cases (received_of_close hturn hc).1
  have hbegun : begun = (r.follow 0 s.start, recordsAt 0 s.start.effects) :=
    begin_of_deadline hfirst k
  have hfollow := follow_delayed d r 0 s.start fun hc => absurd hc hnoclose
  rw [hbegun]
  refine ⟨⟨?_, fun e he => ?_⟩, ?_⟩
  · rw [Run.session_follow]
    exact Session.coherent_move (Session.coherent_create a token l) .begin
  · rw [Run.deadline_follow] at he
    rw [Run.session_follow, hturn.limits_eq]
    exact hl.close e (by simpa [r] using he)
  · have hopened : (⟨s, k, d + l.run, none, none⟩ : Run) = r.delayed d := by
      simp [r, Run.delayed]
    rw [begin_of_deadline (s := s) hlater]
    change (Run.follow d ⟨s, k, d + l.run, none, none⟩ s.start, recordsAt d s.start.effects) = _
    rw [hopened]
    exact congrArg₂ Prod.mk hfollow (recordsAt_delayed d 0 s.start.effects)

/-- A run whose beginning is delayed leads the same life, delayed. -/
theorem lived_delayed {begun : Run × List Record} (h : begun.1.Delayable d) (aborted : Option ℕ)
    (now : ℕ) :
    lived (delayed d begun) (aborted.map (d + ·)) (d + now) =
      delayed d (lived begun aborted now) := by
  cases aborted with
  | none => exact andThen_delayed d (h.advanceTo now).2
  | some t =>
    obtain ⟨hstopped, hadvanced⟩ := h.advanceTo t
    have hstop : andThen (delayed d begun) (·.advanceTo (d + t)) =
        delayed d (andThen begun (·.advanceTo t)) := andThen_delayed d hadvanced
    simp only [lived, Option.map_some, hstop]
    exact andThen_delayed d (hstopped.abort t)

end Delays

section Starts

variable {_ : Json.Wording} {h h₁ : Rehearsal} {q : RunRequest} {i : ℕ} {seen : List Sight}

theorem start_error_iff {p : Problem} : h.start q = .error p ↔ h.runner.start q = .error p := by
  rw [start_eq]
  cases h.runner.start q <;> simp

/-- The life of a run that has started, whatever is done afterwards. -/
theorem led_play (hs : h.start q = .ok (i, h₁, seen)) {d : ℕ}
    (hd : Session.deadline? h.clock h.runner.limits = some d) (ops : List Op) :
    ∃ a, h.runner.address q = .ok a ∧
      Led (Run.begin h.clock (h.connections.headD .absent) (.create a q.token h.runner.limits))
        (abortTime? i h₁ ops) (recordsOf i (seen ++ (h₁.play ops).2)) i (h₁.play ops).1 := by
  obtain ⟨-, hclock, a, ha, hrun, hrecords⟩ := begun_of_start hs
  have htracked := tracked_start hs hd
  obtain ⟨hopened, -⟩ :=
    timeline_opened h.clock (h.connections.headD .absent) a q.token h.runner.limits
  have hbegin : Run.begin h.clock (h.connections.headD .absent)
      (.create a q.token h.runner.limits) = Run.opened h.clock (h.clock + h.runner.limits.run)
        (h.connections.headD .absent) (.create a q.token h.runner.limits) := begin_of_deadline hd _
  rw [← hbegin] at hopened
  refine ⟨a, ha, ?_⟩
  generalize Run.begin h.clock (h.connections.headD .absent) _ = begun at hrun hrecords hopened ⊢
  have hled : Led begun none (recordsOf i seen) i h₁ :=
    ⟨_, hrun, by rw [hrecords, hclock]; rfl⟩
  have hplay := hled.play hopened htracked ops
  rwa [Option.none_or, ← recordsOf_append] at hplay

theorem moveRuns_supply (time k : ℕ) (h : Rehearsal) :
    (moveRuns time k h).1.connections = h.connections := by
  induction k with
  | zero => rfl
  | succ k ih =>
    simp only [moveRuns]
    cases (moveRuns time k h).1.runs[k]? with
    | none => exact ih
    | some r => simpa [replace] using ih

theorem perform_supply (h : Rehearsal) (op : Op) :
    ∃ n, (h.perform op).1.connections = h.connections.drop n := by
  have hmoves (time : ℕ) : ∃ n, (h.advanceTo time).1.connections = h.connections.drop n :=
    ⟨0, moveRuns_supply time _ h⟩
  cases op with
  | start q =>
    cases hs : h.start q with
    | error p =>
      rw [perform_of_start_error hs]
      exact ⟨0, rfl⟩
    | ok started =>
      simp only [perform, hs]
      rw [start_eq] at hs
      cases hr : h.runner.start q with
      | error p => simp [hr] at hs
      | ok begun =>
        simp only [hr, Except.ok.injEq] at hs
        subst hs
        simp only [replace, left]
        split_ifs
        · exact ⟨1, List.drop_one.symm⟩
        · exact ⟨0, rfl⟩
  | advance ms => exact hmoves _
  | abort j =>
    simp only [perform, abort]
    cases h.runs[j]? with
    | none => exact ⟨0, rfl⟩
    | some r => exact ⟨0, rfl⟩
  | await j =>
    simp only [perform, awaitRun]
    cases h.runs[j]? with
    | none => exact ⟨0, rfl⟩
    | some r => exact hmoves _

/-- Connections are taken in their order. -/
theorem play_supply (h : Rehearsal) (ops : List Op) :
    ∃ n, (h.play ops).1.connections = h.connections.drop n := by
  induction ops generalizing h with
  | nil => exact ⟨0, rfl⟩
  | cons op ops ih =>
    obtain ⟨m, hconnections⟩ := perform_supply h op
    obtain ⟨n, hconnections'⟩ := ih (h.perform op).1
    exact ⟨m + n, by rw [play, hconnections', hconnections, List.drop_drop]⟩

/-- All that a history leaves of a runner is whether it is busy. -/
theorem runner_of_free {resolver : Resolver} {limits : Session.Limits}
    {connections : List Connection} {ops : List Op}
    (hfree : ((create (.create resolver limits) connections).play ops).1.runner.busy = false) :
    ((create (.create resolver limits) connections).play ops).1.runner =
      .create resolver limits := by
  obtain ⟨rops, hrops⟩ := explained_play (create (.create resolver limits) connections) ops
  obtain ⟨busy, hrunner⟩ := Roster.runner_play (.create resolver limits) rops
  have hused : ((Roster.create resolver limits).play rops).1.runner =
      ((create (.create resolver limits) connections).play ops).1.runner :=
    congrArg (·.1.runner) hrops
  rw [← hused] at hfree ⊢
  rw [hrunner] at hfree ⊢
  obtain rfl : busy = false := hfree
  rfl

end Starts

/-- Runs are isolated. Whatever a runner has been through, if it is free then the next run is that
of a new runner on the same connection: it starts or is refused alike and, as long as both are first
aborted after the same time, it has at every time the same records, what is to come of it and the
same report, later by the time at which it started. This holds as long as the clock shows what the
run waits for; a run whose deadline it does not show is released at its start. -/
theorem runs_isolated [Json.Wording] (resolver : Resolver) (limits : Session.Limits)
    (connections : List Connection) (history : List Op)
    (hfree : ((create (.create resolver limits) connections).play history).1.runner.busy = false)
    (q : RunRequest) (left : List Connection) :
    let used := ((create (.create resolver limits) connections).play history).1
    let fresh := create (.create resolver limits) (used.connections.headD .absent :: left)
    (∀ p, used.start q = .error p ↔ fresh.start q = .error p) ∧
    ∀ i used₁ seen, used.start q = .ok (i, used₁, seen) →
      (Session.deadline? used.clock limits = none → ∀ ops,
        recordsOf i (seen ++ (used₁.play ops).2) = [⟨used.clock, .event .released⟩]) ∧
      ∃ fresh₁ seen₀, fresh.start q = .ok (0, fresh₁, seen₀) ∧
        (limits.ShownFrom used.clock → ∀ ops ops₀,
          abortTime? i used₁ ops = (abortTime? 0 fresh₁ ops₀).map (used.clock + ·) →
          (used₁.play ops).1.clock = used.clock + (fresh₁.play ops₀).1.clock →
          recordsOf i (seen ++ (used₁.play ops).2) =
            (recordsOf 0 (seen₀ ++ (fresh₁.play ops₀).2)).map (Record.delayed used.clock) ∧
          (used₁.play ops).1.runs[i]? =
            (fresh₁.play ops₀).1.runs[0]?.map (Run.delayed used.clock) ∧
          (used₁.play ops).1.report? i = (fresh₁.play ops₀).1.report? 0) := by
  intro used fresh
  have hrunner : used.runner = fresh.runner := runner_of_free hfree
  have hlimits : used.runner.limits = limits := by rw [hrunner]; rfl
  refine ⟨fun p => by rw [start_error_iff, start_error_iff, hrunner], ?_⟩
  intro i used₁ seen hs
  refine ⟨fun hd ops => (lost_play hs (hlimits.symm ▸ hd) ops).2, ?_⟩
  cases hs₀ : fresh.start q with
  | error p =>
    rw [start_error_iff, ← hrunner, ← start_error_iff, hs] at hs₀
    cases hs₀
  | ok started =>
    obtain ⟨i₀, fresh₁, seen₀⟩ := started
    obtain rfl : i₀ = 0 := (begun_of_start hs₀).1
    refine ⟨fresh₁, seen₀, rfl, fun hshown ops ops₀ habort hclock => ?_⟩
    obtain ⟨hlater, hfirst⟩ := hshown.deadline_eq
    obtain ⟨a, ha, r, hr, hlived⟩ := led_play hs (hlimits.symm ▸ hlater) ops
    obtain ⟨a₀, ha₀, r₀, hr₀, hlived₀⟩ := led_play hs₀ hfirst ops₀
    obtain rfl : a = a₀ := Except.ok.inj (ha.symm.trans (hrunner ▸ ha₀))
    rw [hlimits] at hlived
    obtain ⟨hdelayable, hbegun⟩ :=
      begin_delayed hshown (used.connections.headD .absent) a q.token
    rw [hbegun, habort, hclock, lived_delayed hdelayable] at hlived
    have hlife : (r, recordsOf i (seen ++ (used₁.play ops).2)) =
        delayed used.clock (r₀, recordsOf 0 (seen₀ ++ (fresh₁.play ops₀).2)) :=
      hlived.trans (congrArg (delayed used.clock) hlived₀.symm)
    obtain ⟨rfl, hrecords⟩ := Prod.mk.inj hlife
    refine ⟨hrecords, by rw [hr, hr₀]; rfl, ?_⟩
    rw [report?, report?, hr, hr₀]
    rfl

def mixedConnections : List Connection :=
  [{}, {}, { connect := ⟨0, some (.error (.credentialRejected "expired"))⟩ }, slowConnection,
    slowConnection]

def mixedHistory : List Op :=
  [.start Roster.localRequest, .start Roster.localRequest, .advance 5, .abort 0,
    .start Roster.localRequest, .advance 100, .start Roster.localRequest,
    .start Roster.localRequest, .advance 100]

def tightLimits : Session.Limits := ⟨100, 20⟩

/-- The fifth run is aborted while it is closing, and does what it would do as the first one. -/
theorem runs_isolated_fifthRun :
    let used := ((create (.create Roster.localResolver tightLimits) mixedConnections).play
      mixedHistory).1
    let fresh := create (.create Roster.localResolver tightLimits) [slowConnection]
    ∃ used₁ seen fresh₁ seen₀,
      used.start Roster.localRequest = .ok (4, used₁, seen) ∧
      fresh.start Roster.localRequest = .ok (0, fresh₁, seen₀) ∧
      recordsOf 4 (seen ++ (used₁.play [.advance 40, .advance 30, .abort 4, .advance 10]).2) =
        (recordsOf 0 (seen₀ ++ (fresh₁.play [.advance 70, .abort 0, .advance 10]).2)).map
          (Record.delayed 205) := by
  intro used fresh
  let ops : List Op := [.advance 40, .advance 30, .abort 4, .advance 10]
  let ops₀ : List Op := [.advance 70, .abort 0, .advance 10]
  have hfree : used.runner.busy = false := by decide +kernel
  have hnow : used.clock = 205 := by decide +kernel
  have hconnection : used.connections = [slowConnection] := by
    obtain ⟨n, hconnections⟩ : ∃ n, used.connections = mixedConnections.drop n := play_supply
      (create (.create Roster.localResolver tightLimits) mixedConnections) mixedHistory
    have hleft : used.connections.length = 1 := by decide +kernel
    rw [hconnections, List.length_drop] at hleft
    obtain rfl : n = 4 := by
      change 5 - n = 1 at hleft
      omega
    exact hconnections
  have hused : (used.start Roster.localRequest).toOption.map
      (fun s => (s.1, abortTime? 4 s.2.1 ops, (s.2.1.play ops).1.clock)) =
        some (4, some 275, 285) := by decide +kernel
  have hfresh : (fresh.start Roster.localRequest).toOption.map
      (fun s => (s.1, abortTime? 0 s.2.1 ops₀, (s.2.1.play ops₀).1.clock)) =
        some (0, some 70, 80) := by decide +kernel
  obtain ⟨⟨i, used₁, seen⟩, hs, hused⟩ := exists_ok_of_toOption hused
  obtain ⟨⟨i₀, fresh₁, seen₀⟩, hs₀, hfresh⟩ := exists_ok_of_toOption hfresh
  simp only [Prod.mk.injEq] at hused hfresh
  obtain ⟨rfl, habort, hclock⟩ := hused
  obtain ⟨rfl, habort₀, hclock₀⟩ := hfresh
  have hshown : tightLimits.ShownFrom used.clock :=
    hnow ▸ Session.Limits.shownFrom_of_lt (by decide +kernel)
  have hisolated := ((runs_isolated Roster.localResolver tightLimits mixedConnections mixedHistory
    hfree Roster.localRequest []).2 4 used₁ seen hs).2
  change ∃ fresh₁ seen₀, (create _ (used.connections.headD .absent :: [])).start _ = _ ∧ _
    at hisolated
  rw [hconnection] at hisolated
  obtain ⟨fresh₂, seen₂, hs₂, hisolated⟩ := hisolated
  obtain ⟨rfl, rfl⟩ : fresh₁ = fresh₂ ∧ seen₀ = seen₂ := by
    simpa using hs₀.symm.trans hs₂
  refine ⟨used₁, seen, fresh₁, seen₀, hs, hs₀, ?_⟩
  rw [← hnow]
  exact (hisolated hshown ops ops₀ (by rw [habort, habort₀]; exact congrArg (some <| · + 70) hnow.symm)
    (by rw [hclock, hclock₀]; exact congrArg (· + 80) hnow.symm)).1

end Rehearsal

end Testbed
