import Testbed.Proofs.Session.Story

/-!
# The log of a run

`Course.logs` folds the answers of an ended run into a log: each answer contributes its own entries,
and the end of closing at most one. The log that a run reports is this fold, whatever came and
whenever it was cut short; what a cut leaves is a prefix at the boundary of a whole frame.
-/

namespace Testbed.Session

open Log (Entry)

theorem CloseEnd.length_entries_le {l : Limits} (e : CloseEnd) (c : Bool) :
    (e.entries l c).length ≤ 1 := by
  cases e <;> cases c <;> simp [CloseEnd.entries]

section Growth

variable [Json.Wording] {s : Session}

theorem Turn.logs_grow {x : Stimulus} {m : Move} (h : Turn s x m) : s.logs <+: m.session.logs := by
  cases h with
  | ignored => exact List.prefix_rfl
  | connected => exact List.prefix_rfl
  | _ => exact List.prefix_append _ _

/-- Nothing is ever taken out of a log. -/
theorem logs_grow_play (hs : s.Coherent) (xs : List Stimulus) :
    s.logs <+: (s.play xs).session.logs := by
  induction xs generalizing s with
  | nil => exact List.prefix_rfl
  | cons x xs ih =>
    have h₁ := (turn_move hs x).logs_grow
    exact h₁.trans (ih (coherent_move hs x))

end Growth

section Courses

variable [Json.Wording] {l : Limits} (a : Address) (token : String)

/-- What is logged of a run by some moment is where the log of every continuation begins. -/
theorem Progress.logs_grow_of_stimuli (p : Progress) (c : Course l)
    (h : p.stimuli <+: c.stimuli) : p.logs a <+: c.logs a := by
  obtain ⟨xs, hxs⟩ := h
  have hp := logs_grow_play (coherent_progress (l := l) a "" p) xs
  have hc := play_course a "" c
  rw [← hxs, play_append, play_progress] at hc
  have hs : ((p.session a "" l).play xs).session = c.session a "" := congrArg Move.session hc
  rwa [hs] at hp

theorem Break.problem_of_isInterruption (b : Break l) (h : b.signal.isInterruption = true) :
    b.problem = runTimeout l ∨ b.problem = .cancelled := by
  obtain ⟨p, x, q, hq⟩ := b
  cases x <;> simp [Signal.isInterruption] at h <;> cases p <;>
    simp [fault?, Progress.phase, Phase.isStreaming] at hq <;> simp [hq]

theorem report?_play_course (c : Course l) :
    ((create a token l).play c.stimuli).session.report? =
      some ⟨c.state, c.outcome, c.logs a⟩ := by
  rw [play_course]
  rfl

/-- A run that has ended is that of a course. -/
theorem exists_course {xs : List Stimulus} {r : Report}
    (h : ((create a token l).play xs).session.report? = some r) :
    ∃ c : Course l, (create a token l).heeded xs = c.stimuli ∧
      (create a token l).play xs = ⟨c.session a token, c.effects a token⟩ ∧
      r = ⟨c.state, c.outcome, c.logs a⟩ := by
  obtain ⟨st, hst, hplay⟩ := exists_story a token xs (l := l)
  rw [hplay] at h
  cases st with
  | streaming p => cases p <;> cases h
  | closing fs f => cases h
  | ended c => exact ⟨c, hst, hplay, (Option.some.inj h).symm⟩

/-- The log that a run reports is the fold of the answers that it heeded. A run that was interrupted
has logged what every run with the same answers has, up to a whole frame, and then why it ended. -/
theorem report_logs_eq_fold :
    (∀ c : Course l, ∃ r, ((create a token l).play c.stimuli).session.report? = some r ∧
      r.logs = c.logs a) ∧
    (∀ xs r, ((create a token l).play xs).session.report? = some r →
      ∃ c : Course l, (create a token l).heeded xs = c.stimuli ∧ r.logs = c.logs a) ∧
    (∀ b : Break l, b.signal.isInterruption = true →
      (b.problem = runTimeout l ∨ b.problem = .cancelled) ∧
      ∀ c : Course l, b.progress.stimuli <+: c.stimuli → b.progress.logs a <+: c.logs a) ∧
    ∀ (e : CloseEnd) (peerClosed : Bool), (e.entries l peerClosed).length ≤ 1 := by
  refine ⟨fun c => ⟨_, report?_play_course a token c, rfl⟩, ?_, ?_,
    fun e c => e.length_entries_le c⟩
  · intro xs r h
    obtain ⟨c, hc, -, rfl⟩ := exists_course a token h
    exact ⟨c, hc, rfl⟩
  · intro b hb
    exact ⟨b.problem_of_isInterruption hb, fun c => b.progress.logs_grow_of_stimuli a c⟩

end Courses

def localAddress : Address :=
  ⟨"ws", "", "", some (.name "localhost"), some 8002, .segments ["run"], none, none⟩

/-- Stimuli of which some do not fit: a run that completes, though nobody answers its close. -/
def unansweredClose : List Stimulus :=
  [.begin, .signal .sent, .signal .connected, .signal .sent,
    .signal (.received (.text "\x7b\"logs\": [\x7b\"message\": \"open\"\x7d]\x7d")),
    .signal .closed, .signal (.received (.text "\x7b\"status\": \"Completed\"\x7d")),
    .signal .deadline, .signal (.received (.malformed "late")), .signal .closeTimedOut, .signal .abort]

theorem report_logs_eq_fold_unansweredClose :
    let s := create localAddress "secret" {}
    let logs : List Entry :=
      [.info "Connecting to ws://localhost:8002/run", .info "Connected and token sent",
        .debug "Raw message received: \x7b\"logs\": [\x7b\"message\": \"open\"\x7d]\x7d",
        ⟨.given "", "open", .info⟩,
        .debug "Raw message received: \x7b\"status\": \"Completed\"\x7d",
        .ofNow (.other "Completed") "Execution completed",
        .ofNow .error "Error closing connection: no close acknowledgement within 5 seconds"]
    (s.play unansweredClose).session.report? = some ⟨.failed, .completed, logs⟩ ∧
      ∃ c : Course {}, s.heeded unansweredClose = c.stimuli ∧ logs = c.logs localAddress := by
  intro s logs
  have h : (s.play unansweredClose).session.report? = some ⟨.failed, .completed, logs⟩ := by decide
  exact ⟨h, (report_logs_eq_fold localAddress "secret").2.1 _ _ h⟩

end Testbed.Session
