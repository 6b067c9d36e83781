import Testbed.Proofs.Rehearsal.History

/-!
# The gate of a runner

After any operations the gate is held by the one session that has started and not announced its
release, if there is one. A refused start leaves no trace, and a session that has announced its
release has no hand in what comes later. A rehearsal is covered, since all it does is the play of a
roster.
-/

namespace Testbed.Roster

open Session (Stimulus)

section Refusals

variable [Json.Wording] {w : Roster} {es : Trace}

/-- The rest of a play does not see that a start was refused. -/
theorem play_of_refused {q : RunRequest} {p : Problem} {ops : List Op}
    (h : (w.play ops).1.runner.start q = .error p) (ops' : List Op) :
    w.play (ops ++ .start q :: ops') = w.play (ops ++ ops') := by
  rw [play_append, play_append, play, perform_start_of_error h]
  simp only [List.nil_append]

theorem Kept.move_of_announced (h : w.Kept es) {i : ℕ} (hi : Announced es i) (x : Stimulus) :
    w.perform (.move i x) = (w, []) := by
  have hs := List.getElem?_eq_getElem (h.started i hi)
  have hs' := (h.announced i _ hs).mp hi
  simp only [Roster.perform, hs, Session.move_of_isEnded hs', replace_rest hs]

theorem Kept.abandon_of_announced (h : w.Kept es) {i : ℕ} (hi : Announced es i) :
    w.perform (.abandon i) = (w, []) := by
  have hs := List.getElem?_eq_getElem (h.started i hi)
  have hs' := (h.announced i _ hs).mp hi
  have hm := (Session.reliable_abandon (h.coherent _ (List.getElem_mem _))).stays hs'
  simp only [Roster.perform, hs, hm, replace_rest hs]

end Refusals

section Settings

variable [Json.Wording] (w : Roster)

/-- All that an operation changes of a runner is its gate. -/
theorem runner_perform (op : Op) :
    ∃ busy, (w.perform op).1.runner = { w.runner with busy := busy } := by
  cases op with
  | start q =>
    cases hs : w.runner.start q with
    | error p =>
      rw [perform_start_of_error hs]
      exact ⟨w.runner.busy, rfl⟩
    | ok started =>
      obtain ⟨-, hr, -⟩ := w.runner.start_ok hs
      rw [perform_start_of_ok hs]
      exact ⟨true, hr⟩
  | move i x | abandon i =>
    simp only [perform]
    cases w.sessions[i]? with
    | none => exact ⟨w.runner.busy, rfl⟩
    | some s => exact w.runner.exists_observe_eq _

theorem runner_play (ops : List Op) :
    ∃ busy, (w.play ops).1.runner = { w.runner with busy := busy } := by
  induction ops generalizing w with
  | nil => exact ⟨w.runner.busy, rfl⟩
  | cons op ops ih =>
    obtain ⟨_, hop⟩ := w.runner_perform op
    obtain ⟨busy, hops⟩ := ih (w.perform op).1
    exact ⟨busy, by rw [play, hops, hop]⟩

theorem resolver_play (ops : List Op) : (w.play ops).1.runner.resolver = w.runner.resolver := by
  obtain ⟨_, h⟩ := w.runner_play ops
  rw [h]

end Settings

/-- A runner runs one session at a time, whatever is asked of it and however the sessions go. -/
theorem one_session_at_a_time [Json.Wording] (resolver : Resolver) (limits : Session.Limits) :
    let free := create resolver limits
    (∀ ops : List Op,
      let w := (free.play ops).1
      let es := (free.play ops).2
      (∀ i j, w.Active es i → w.Active es j → i = j) ∧
      (w.runner.busy = true ↔ ∃ i, w.Active es i) ∧
      (∀ q, (∃ started, w.runner.start q = .ok started) ↔
        w.runner.busy = false ∧ ∃ a, free.runner.address q = .ok a) ∧
      (∀ q p, w.runner.start q = .error p →
        (w.runner.busy = true ∧ p = .sessionActive ∨
          w.runner.busy = false ∧ free.runner.address q = .error p ∧
            ∃ text why, p = .badAddress text why) ∧
        w.perform (.start q) = (w, []) ∧
        ∀ ops', free.play (ops ++ .start q :: ops') = free.play (ops ++ ops')) ∧
      ∀ i, Announced es i →
        (∀ x, w.perform (.move i x) = (w, [])) ∧ w.perform (.abandon i) = (w, [])) ∧
    ∀ connections (hops : List Rehearsal.Op),
      let h := (Rehearsal.create (.create resolver limits) connections).play hops
      ∃ ops, free.play ops = (h.1.roster, Rehearsal.traceOf h.2) := by
  intro free
  refine ⟨?_, fun connections hops =>
    Rehearsal.explained_play (.create (.create resolver limits) connections) hops⟩
  intro ops w es
  have h : w.Kept es := by simpa using (kept_create resolver limits).play ops
  have haddress (q : RunRequest) : w.runner.address q = free.runner.address q := by
    simp only [Runner.address, w, resolver_play]
  refine ⟨h.unique, h.busy, ?_, ?_, fun i hi => ⟨h.move_of_announced hi, h.abandon_of_announced hi⟩⟩
  · intro q
    rw [w.runner.start_ok_iff q, haddress]
  · intro q p hp
    refine ⟨?_, perform_start_of_error hp, play_of_refused hp⟩
    rcases w.runner.start_error hp with hb | ⟨hb, ha⟩
    · exact .inl hb
    · exact .inr ⟨hb, haddress q ▸ ha, w.runner.address_error ha⟩

/-- The first session cannot connect, so that the third start is not refused as the second one was;
an abort of the first session then comes too late. -/
def lateAbort : List Op :=
  [.start localRequest, .move 0 .begin, .start localRequest,
    .move 0 (.signal (.connectFailed .cancelled)), .start localRequest, .move 0 (.signal .abort)]

theorem one_session_at_a_time_lateAbort :
    let w := ((create localResolver {}).play lateAbort).1
    let es := ((create localResolver {}).play lateAbort).2
    w.sessions.length = 2 ∧ Announced es 0 ∧ w.runner.busy = true ∧ (∃ i, w.Active es i) ∧
      w.perform (.move 0 (.signal .abort)) = (w, []) := by
  intro w es
  obtain ⟨-, hbusy, -, -, hreleased⟩ := (one_session_at_a_time localResolver {}).1 lateAbort
  have hw : w.runner.busy = true := by decide
  have h₀ : Announced es 0 := by
    unfold Announced
    decide
  exact ⟨by decide, h₀, hw, hbusy.mp hw, (hreleased 0 h₀).1 _⟩

end Testbed.Roster
