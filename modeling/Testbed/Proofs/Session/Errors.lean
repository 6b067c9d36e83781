import Testbed.Proofs.Message.Received
import Testbed.Proofs.Session.RunLog

/-!
# Errors in the log of a run

No failure is silent, and no success carries an error. As long as a run is undecided its log is free
of errors. What ends it undecided is one error, the last entry; what closing adds is an error if and
only if it spoils the state.
-/

namespace Testbed

open Log (Entry)

namespace Frame

variable {_ : Json.Wording} {f : Frame} {e : Entry}

theorem stamp_or_received (h : e ∈ f.entries) : e.stamp = .now ∨ e ∈ f.received := by
  cases f with
  | text t =>
    obtain rfl | h := List.mem_cons.mp h
    · exact .inl rfl
    · exact Reading.stamp_or_received h
  | malformed why =>
    rw [List.mem_singleton.mp h]
    exact .inl rfl
  | close code reason =>
    by_cases hc : code = some policyViolation
    · rw [entries, if_pos hc, List.mem_singleton] at h
      exact .inl (h ▸ rfl)
    · rw [entries, if_neg hc, List.mem_singleton] at h
      exact .inl (h ▸ rfl)

theorem mem_entries_of_received (h : e ∈ f.received) : e ∈ f.entries := by
  cases f with
  | text t =>
    obtain ⟨m, hm, hread⟩ | ⟨hm, -⟩ := Reading.ofText_cases t
    · rw [received, hm] at h
      refine List.mem_cons_of_mem _ ?_
      rw [hread]
      obtain ⟨-, hlogs⟩ | ⟨-, hlogs | ⟨s, v, hlogs⟩⟩ := Reading.ofMessage_cases m
      · rwa [hlogs]
      · rwa [hlogs]
      · rw [hlogs]
        exact List.mem_append_left _ h
    · rw [received, hm] at h
      cases h
  | malformed why => cases h
  | close code reason => cases h

/-- A frame lets a run go on only without an error, and completes it or closes it only so. -/
theorem no_error (h : ∀ d, f.decision? = some d → d.1 = .completed ∨ d.1 = .closedByServer) :
    ∀ e ∈ f.entries, e.isError = false := by
  cases f with
  | text t =>
    refine List.forall_mem_cons.mpr ⟨rfl, Reading.no_error_of_verdict ?_⟩
    cases hv : (Reading.ofText t).verdict with
    | goOn => exact .inl rfl
    | ended v => exact .inr ⟨v, rfl⟩
    | _ => simp [decision?, hv] at h
  | malformed why => simp [decision?] at h
  | close code reason =>
    by_cases hc : code = some policyViolation
    · simp [decision?, hc] at h
    · simp [entries, hc]

theorem error_of_refusal {c : Bool} (h : f.decision? = some (.credentialRejected, c)) :
    ∃ e ∈ f.entries, e.isError = true ∧ e.stamp = .now := by
  cases f with
  | text t =>
    simp only [decision?] at h
    split at h <;> simp at h
  | malformed why => cases h
  | close code reason =>
    have hc : code = some policyViolation := by
      by_contra hc
      simp [decision?, hc] at h
    rw [entries, if_pos hc]
    exact ⟨_, List.mem_singleton_self _, rfl, rfl⟩

/-- What a frame decides closes in order, or the other side has refused the credential. -/
theorem terminalState_of_decision {o : Session.Outcome} {c : Bool}
    (h : f.decision? = some (o, c)) : o.terminalState = .closed ∨ o = .credentialRejected := by
  cases f with
  | text t =>
    simp only [decision?] at h
    split at h
    all_goals cases h
    all_goals exact .inl rfl
  | malformed why =>
    cases h
    exact .inl rfl
  | close code reason =>
    by_cases hc : code = some policyViolation
    · rw [decision?, if_pos hc] at h
      cases h
      exact .inr rfl
    · rw [decision?, if_neg hc] at h
      cases h
      exact .inl rfl

end Frame

namespace Session

section Received

variable {_ : Json.Wording} {s : Session} {e : Entry}

theorem CloseEnd.stamp_of_entries {l : Limits} (close : CloseEnd) {c : Bool}
    (h : e ∈ close.entries l c) : e.stamp = .now := by
  cases close <;> cases c <;> simp only [entries, List.mem_singleton, List.not_mem_nil] at h
  all_goals
    rw [h]
    rfl

/-- What a turn logs is the program's own, or brought by the frame that came. -/
theorem Turn.mem_logs {x : Stimulus} {m : Move} (h : Turn s x m) (he : e ∈ m.session.logs) :
    e ∈ s.logs ∨ e.stamp = .now ∨ ∃ f, x = .signal (.received f) ∧ e ∈ f.received := by
  cases h with
  | ignored => exact .inl he
  | connected => exact .inl he
  | begun | sent | broken =>
    obtain he | he := List.mem_append.mp he
    · exact .inl he
    · exact .inr (.inl (by rw [List.mem_singleton.mp he]; rfl))
  | @wentOn f | @decided f =>
    obtain he | he := List.mem_append.mp he
    · exact .inl he
    · exact .inr (Frame.stamp_or_received he |>.imp_right fun hf => ⟨f, rfl, hf⟩)
  | @settled _ _ c close =>
    obtain he | he := List.mem_append.mp he
    · exact .inl he
    · exact .inr (.inl (close.stamp_of_entries he))

/-- Every entry of a log is the program's own, or a frame has brought it. -/
theorem mem_logs_play (hs : s.Coherent) (xs : List Stimulus)
    (he : e ∈ (s.play xs).session.logs) :
    e ∈ s.logs ∨ e.stamp = .now ∨
      ∃ f, .signal (.received f) ∈ s.heeded xs ∧ e ∈ f.received := by
  induction xs generalizing s with
  | nil => exact .inl he
  | cons x xs ih =>
    cases hx : s.phase.heeds x with
    | false =>
      rw [play, move_of_not_heeds hx] at he
      simpa only [heeded, hx, Bool.false_eq_true, if_false] using ih hs he
    | true =>
      have hheeded : s.heeded (x :: xs) = x :: (s.move x).session.heeded xs := by
        rw [heeded, if_pos hx]
      rw [hheeded]
      obtain hold | hown | ⟨f, hf, hbrought⟩ := ih (coherent_move hs x) he
      · obtain hold | hown | ⟨f, rfl, hbrought⟩ := (turn_move hs x).mem_logs hold
        · exact .inl hold
        · exact .inr (.inl hown)
        · exact .inr (.inr ⟨f, List.mem_cons_self, hbrought⟩)
      · exact .inr (.inl hown)
      · exact .inr (.inr ⟨f, List.mem_cons_of_mem _ hf, hbrought⟩)

end Received

section Courses

variable {_ : Json.Wording} {l : Limits} (a : Address)

theorem no_error_passing (fs : PassingFrames) : ∀ e ∈ fs.logs, e.isError = false := by
  intro e he
  obtain ⟨f, hf, he⟩ := List.mem_flatMap.mp he
  exact Frame.no_error (by simp [fs.2 f hf]) e he

theorem Progress.no_error (p : Progress) : ∀ e ∈ p.logs a, e.isError = false := by
  cases p with
  | sent fs =>
    rw [logs, List.forall_mem_append]
    exact ⟨by simp [connectEntry, sentEntry], no_error_passing fs⟩
  | _ => simp [logs, connectEntry]

theorem countP_isError_eq_zero {es : List Entry} (h : ∀ e ∈ es, e.isError = false) :
    es.countP Entry.isError = 0 := by
  rw [List.countP_eq_zero]
  intro e he
  simp [h e he]

theorem CloseEnd.countP_isError (e : CloseEnd) (c : Bool) {o : Outcome}
    (h : o.terminalState = .closed) :
    (e.entries l c).countP Entry.isError = if e.state o c = .closed then 0 else 1 := by
  cases e <;> cases c <;> simp [entries, state, h]

namespace Course

variable (c : Course l)

theorem error_of_failed (h : c.state = .failed) :
    ∃ e ∈ c.logs a, e.isError = true ∧ e.stamp = .now := by
  cases c with
  | broken b => exact ⟨.problem b.problem, by simp [logs], rfl, rfl⟩
  | closed fs f e =>
    obtain hclosed | hrefused := Frame.terminalState_of_decision f.decides
    · have hcount := e.countP_isError (l := l) f.peerClosed hclosed
      rw [state] at h
      rw [h, if_neg (by decide)] at hcount
      obtain ⟨x, hx, herror⟩ := List.countP_pos_iff.mp (by rw [hcount]; exact Nat.one_pos)
      exact ⟨x, List.mem_append_right _ hx, herror, e.stamp_of_entries hx⟩
    · obtain ⟨x, hx, herror⟩ := Frame.error_of_refusal (hrefused ▸ f.decides)
      refine ⟨x, ?_, herror⟩
      simp [logs, hx]

theorem received_of_closed {fs : PassingFrames} {f : DecidingFrame} {e : CloseEnd} {g : Frame}
    (h : .signal (.received g) ∈ (closed (l := l) fs f e).stimuli) :
    g.decision? = none ∨ g = f.frame := by
  have hend : Signal.received g ≠ e.signal := by cases e <;> simp [CloseEnd.signal]
  simp only [stimuli, Progress.stimuli, PassingFrames.stimuli, List.mem_append, List.mem_cons,
    List.mem_map, Stimulus.signal.injEq, Signal.received.injEq, List.not_mem_nil, hend] at h
  obtain (h | ⟨g', hg', rfl⟩) | h := h
  · simp at h
  · exact .inl (fs.2 g' hg')
  · exact .inr (by simpa using h)

theorem errors_of_success (ho : c.outcome ∈ [.completed, .closedByServer]) :
    (∀ f, .signal (.received f) ∈ c.stimuli → ∀ e ∈ f.entries, e.isError = false) ∧
      (c.logs a).countP Entry.isError = if c.state = .closed then 0 else 1 := by
  have hsuccess : c.outcome = .completed ∨ c.outcome = .closedByServer := by simpa using ho
  have hterminal : c.outcome.terminalState = .closed := by
    obtain h | h := hsuccess <;> rw [h] <;> rfl
  cases c with
  | broken b =>
    rw [outcome, terminalState_ofProblem] at hterminal
    cases hterminal
  | closed fs f e =>
    have hframe : ∀ x ∈ f.frame.entries, x.isError = false := by
      refine Frame.no_error fun d hd => ?_
      obtain rfl := Option.some.inj (f.decides.symm.trans hd)
      exact hsuccess
    refine ⟨fun g hg => ?_, ?_⟩
    · obtain hpass | rfl := received_of_closed hg
      · exact Frame.no_error (by simp [hpass])
      · exact hframe
    · have hno := countP_isError_eq_zero ((Progress.sent fs).no_error a)
      have hzero := countP_isError_eq_zero hframe
      have hsplit : (closed (l := l) fs f e).logs a =
          (Progress.sent fs).logs a ++ f.frame.entries ++ e.entries l f.peerClosed := by
        simp [logs, Progress.logs, PassingFrames.logs]
      rw [hsplit, List.countP_append, List.countP_append, hno, hzero,
        e.countP_isError f.peerClosed hterminal]
      exact Nat.zero_add _

theorem errors_of_break
    (ho : c.outcome ∈ [.connectionFailed, .transportError, .timedOut, .cancelled]) :
    (c.logs a).countP Entry.isError = 1 ∧
      ∃ e, (c.logs a).getLast? = some e ∧ e.isError = true := by
  cases c with
  | broken b =>
    have hno := countP_isError_eq_zero (b.progress.no_error a)
    rw [logs, List.countP_append, hno, List.getLast?_concat]
    exact ⟨rfl, _, rfl, rfl⟩
  | closed fs f e =>
    rw [outcome] at ho
    obtain h | h := Frame.terminalState_of_decision f.decides
    · cases hf : f.outcome <;> simp [hf, Outcome.terminalState] at h ho
    · simp [h] at ho

end Course

end Courses

/-- No failure is silent and no success carries an error. The entries that a frame brings bear the
stamp of the other side, so that what is stamped now is the program's own; an error among them is
one in any spelling. -/
theorem errors_of_run [Json.Wording] (l : Limits) (a : Address) (token : String) :
    let s := create a token l
    (∀ xs r, (s.play xs).session.report? = some r →
      (r.state = .failed → ∃ e ∈ r.logs, e.isError = true ∧ e.stamp = .now) ∧
      (r.outcome ∈ [.completed, .closedByServer] →
        (∀ f, .signal (.received f) ∈ s.heeded xs →
          ∀ e ∈ f.received, Text.asciiUpper e.status.text ≠ "ERROR") ∧
        (r.state = .closed → ∀ e ∈ r.logs, e.isError = false) ∧
        (r.state = .failed → r.logs.countP Entry.isError = 1)) ∧
      (r.outcome ∈ [.connectionFailed, .transportError, .timedOut, .cancelled] →
        r.logs.countP Entry.isError = 1 ∧
          ∃ e, r.logs.getLast? = some e ∧ e.isError = true)) ∧
    (∀ xs, (s.play xs).session.phase.isStreaming = true →
      ∀ e ∈ (s.play xs).session.logs, e.isError = false) ∧
    (∀ xs, ∀ e ∈ (s.play xs).session.logs, e.stamp = .now ∨
      ∃ f, .signal (.received f) ∈ s.heeded xs ∧ e ∈ f.received) ∧
    ∀ f : Frame, ∀ e ∈ f.received, e.stamp ≠ .now := by
  intro s
  refine ⟨?_, ?_, ?_, fun f e he => (Frame.isGiven_of_received he).stamp_ne⟩
  · intro xs r h
    obtain ⟨c, hc, -, rfl⟩ := exists_course a token h
    refine ⟨c.error_of_failed a, fun ho => ?_, c.errors_of_break a⟩
    obtain ⟨hframes, hcount⟩ := c.errors_of_success a ho
    refine ⟨?_, ?_, ?_⟩
    · intro f hf e he herror
      have hno := hframes f (hc ▸ hf) e (Frame.mem_entries_of_received he)
      have hyes := (Frame.isGiven_of_received he).isNamed.isError_iff.mpr herror
      rw [Entry.isError, hyes] at hno
      cases hno
    · intro hstate
      rw [if_pos hstate, List.countP_eq_zero] at hcount
      simpa using hcount
    · intro hstate
      rwa [if_neg (by simp [show c.state = .failed from hstate])] at hcount
  · intro xs hp
    obtain ⟨st, -, hplay⟩ := exists_story a token xs (l := l)
    rw [hplay] at hp ⊢
    cases st with
    | streaming p => exact p.no_error a
    | closing fs f => cases hp
    | ended c => cases hp
  · intro xs e he
    exact (mem_logs_play (coherent_create a token l) xs he).resolve_left List.not_mem_nil

/-- The run completes and nobody answers its close: that is its one error. -/
theorem errors_of_run_unansweredClose :
    let s := create localAddress "secret" {}
    ∃ r, (s.play unansweredClose).session.report? = some r ∧ r.state = .failed ∧
      r.outcome = .completed ∧ r.logs.countP Entry.isError = 1 ∧
        ∃ e ∈ r.logs, e.isError = true ∧ e.stamp = .now := by
  intro s
  have hr : (s.play unansweredClose).session.report?.map (fun r => (r.state, r.outcome)) =
      some (.failed, .completed) := by decide
  obtain ⟨r, h, hverdict⟩ := Option.map_eq_some_iff.mp hr
  obtain ⟨hstate, houtcome⟩ := Prod.mk.inj hverdict
  obtain ⟨hloud, hsuccess, -⟩ := (errors_of_run {} localAddress "secret").1 _ r h
  exact ⟨r, h, hstate, houtcome, (hsuccess (by simp [houtcome])).2.2 hstate, hloud hstate⟩

end Session

end Testbed
