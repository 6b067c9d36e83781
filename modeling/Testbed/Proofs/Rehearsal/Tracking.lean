import Testbed.Proofs.Rehearsal.Timeline

/-!
# Tracking a run

A run among the others of a rehearsal. Whatever is done to the rehearsal either leaves the run as it
is, lets it do what is due by the new time of the clock, or aborts it, so its records stay on their
timeline.
-/

namespace Testbed.Rehearsal

variable {_ : Json.Wording}

def recordsOf (i : ℕ) (ss : List Sight) : List Record :=
  (ss.filter (·.run = i)).map Sight.record

def abortTime? [Json.Wording] (i : ℕ) : Rehearsal → List Op → Option ℕ
  | _, [] => none
  | h, op :: ops => if op = .abort i then some h.clock else abortTime? i (h.perform op).1 ops

variable {g : Setting} {aborted : Option ℕ} {es : List Record} {i : ℕ} {h h₁ : Rehearsal}

@[simp] theorem recordsOf_append (ss ss' : List Sight) :
    recordsOf i (ss ++ ss') = recordsOf i ss ++ recordsOf i ss' := by
  simp [recordsOf]

@[simp] theorem recordsOf_sightsOf_self (rs : List Record) : recordsOf i (sightsOf i rs) = rs := by
  simp [recordsOf, sightsOf, List.filter_map, Function.comp_def]

theorem recordsOf_sightsOf_of_ne {j : ℕ} (hj : j ≠ i) (rs : List Record) :
    recordsOf i (sightsOf j rs) = [] := by
  simp [recordsOf, sightsOf, List.filter_map, Function.comp_def, hj]

def Tracked [Json.Wording] (g : Setting) (aborted : Option ℕ) (es : List Record) (i : ℕ)
    (h : Rehearsal) : Prop :=
  ∃ r, h.runs[i]? = some r ∧ OnTime g aborted h.clock es r

theorem moveRuns_run {r : Run} (hi : h.runs[i]? = some r) (time k : ℕ) :
    (moveRuns time k h).1.clock = h.clock ∧
      (moveRuns time k h).1.runs[i]? = some (if i < k then (r.advanceTo time).1 else r) ∧
      recordsOf i (moveRuns time k h).2 = if i < k then (r.advanceTo time).2 else [] := by
  induction k with
  | zero => exact ⟨rfl, by simpa [moveRuns] using hi, rfl⟩
  | succ k ih =>
    obtain ⟨hclock, hrun, hrecords⟩ := ih
    simp only [moveRuns]
    -- the pass meets the run once, when it comes to its place
    by_cases hk : k = i
    · subst hk
      rw [if_neg (Nat.lt_irrefl k)] at hrun hrecords
      obtain ⟨hlt, hget⟩ := List.getElem?_eq_some_iff.mp hrun
      simp [replace, hclock, hrecords, hlt, hget]
    · have hlt : i < k + 1 ↔ i < k := by omega
      simp only [hlt]
      cases (moveRuns time k h).1.runs[k]? with
      | none => exact ⟨hclock, hrun, hrecords⟩
      | some r' =>
        simp [replace, hclock, List.getElem?_set_ne hk, hrun, hrecords,
          recordsOf_sightsOf_of_ne hk]

theorem le_lastTime (now : ℕ) (rs : List Record) : now ≤ lastTime now rs := by
  unfold lastTime
  induction rs generalizing now with
  | nil => exact le_rfl
  | cons r rs ih => exact (Nat.le_max_left _ _).trans (ih _)

theorem advanceTo_run {r : Run} (hi : h.runs[i]? = some r) {time : ℕ} (hle : h.clock ≤ time) :
    (h.advanceTo time).1.clock = time ∧
      (h.advanceTo time).1.runs[i]? = some (r.advanceTo time).1 ∧
      recordsOf i (h.advanceTo time).2 = (r.advanceTo time).2 := by
  obtain ⟨hlt, -⟩ := List.getElem?_eq_some_iff.mp hi
  obtain ⟨hclock, hrun, hrecords⟩ := moveRuns_run hi time h.runs.length
  rw [if_pos hlt] at hrun hrecords
  exact ⟨by simp [Rehearsal.advanceTo, hclock, hle], hrun, hrecords⟩

theorem start_run {r : Run} (hi : h.runs[i]? = some r) {q : RunRequest} {j : ℕ} {seen : List Sight}
    (hs : h.start q = .ok (j, h₁, seen)) :
    h₁.clock = h.clock ∧ h₁.runs[i]? = some r ∧ recordsOf i seen = [] := by
  obtain ⟨hlt, -⟩ := List.getElem?_eq_some_iff.mp hi
  rw [start_eq] at hs
  cases hr : h.runner.start q with
  | error p => simp [hr] at hs
  | ok started =>
    simp only [hr, Except.ok.injEq, Prod.mk.injEq] at hs
    obtain ⟨rfl, rfl, rfl⟩ := hs
    have hne : h.runs.length ≠ i := by omega
    refine ⟨rfl, ?_, recordsOf_sightsOf_of_ne hne _⟩
    simp [List.getElem?_append_left hlt, hi]

theorem abort_run {r : Run} (hi : h.runs[i]? = some r) :
    (h.abort i).1.clock = h.clock ∧
      (h.abort i).1.runs[i]? = some (r.deliver h.clock .abort).1 ∧
      recordsOf i (h.abort i).2 = (r.deliver h.clock .abort).2 := by
  obtain ⟨hlt, -⟩ := List.getElem?_eq_some_iff.mp hi
  rw [Rehearsal.abort, hi]
  exact ⟨rfl, List.getElem?_set_self hlt, recordsOf_sightsOf_self _⟩

/-- Unless an operation aborts the run, the run just does what is due by the new time. -/
theorem perform_run {r : Run} (hi : h.runs[i]? = some r) (hs : r.Settled h.clock) {op : Op}
    (hop : op ≠ .abort i) :
    h.clock ≤ (h.perform op).1.clock ∧
      (h.perform op).1.runs[i]? = some (r.advanceTo (h.perform op).1.clock).1 ∧
      recordsOf i (h.perform op).2 = (r.advanceTo (h.perform op).1.clock).2 := by
  -- what leaves the clock and the run as they are does so because nothing is due
  have hstays (h' : Rehearsal) (ss : List Sight) (hclock : h'.clock = h.clock)
      (hrun : h'.runs[i]? = some r) (hseen : recordsOf i ss = []) :
      h.clock ≤ h'.clock ∧ h'.runs[i]? = some (r.advanceTo h'.clock).1 ∧
        recordsOf i ss = (r.advanceTo h'.clock).2 := by
    rw [hclock, advanceTo_of_settled hs]
    exact ⟨le_rfl, hrun, hseen⟩
  have hmoves (time : ℕ) (hle : h.clock ≤ time) :
      h.clock ≤ (h.advanceTo time).1.clock ∧
        (h.advanceTo time).1.runs[i]? = some (r.advanceTo (h.advanceTo time).1.clock).1 ∧
        recordsOf i (h.advanceTo time).2 = (r.advanceTo (h.advanceTo time).1.clock).2 := by
    obtain ⟨hclock, hrun, hseen⟩ := advanceTo_run hi hle
    rw [hclock]
    exact ⟨hle, hrun, hseen⟩
  cases op with
  | start q =>
    simp only [Rehearsal.perform]
    cases hq : h.start q with
    | error p => exact hstays h [] rfl hi rfl
    | ok started =>
      obtain ⟨hclock, hrun, hseen⟩ := start_run hi hq
      exact hstays _ _ hclock hrun hseen
  | advance ms => exact hmoves _ (Nat.le_add_right _ _)
  | abort j =>
    have hj : j ≠ i := fun e => hop (e ▸ rfl)
    simp only [Rehearsal.perform, Rehearsal.abort]
    cases h.runs[j]? with
    | none => exact hstays h [] rfl hi rfl
    | some r' =>
      refine hstays _ _ rfl ?_ (recordsOf_sightsOf_of_ne hj _)
      simp [replace, List.getElem?_set_ne hj, hi]
  | await j =>
    simp only [Rehearsal.perform, Rehearsal.awaitRun]
    cases h.runs[j]? with
    | none => exact hstays h [] rfl hi rfl
    | some r' => exact hmoves _ (le_lastTime _ _)

/-- What is done to a rehearsal leaves a run that is over as it is. -/
theorem play_of_isEnded {r : Run} (hi : h.runs[i]? = some r) (he : r.session.isEnded = true)
    (ops : List Op) : (h.play ops).1.runs[i]? = some r ∧ recordsOf i (h.play ops).2 = [] := by
  induction ops generalizing h with
  | nil => exact ⟨hi, rfl⟩
  | cons op ops ih =>
    have hstep : (h.perform op).1.runs[i]? = some r ∧ recordsOf i (h.perform op).2 = [] := by
      by_cases hop : op = .abort i
      · subst hop
        obtain ⟨-, hrun, hrecords⟩ := abort_run hi
        rw [Run.deliver_of_isEnded he] at hrun hrecords
        exact ⟨hrun, hrecords⟩
      · have hsettled : r.Settled h.clock := fun he' => by simp [he] at he'
        obtain ⟨-, hrun, hrecords⟩ := perform_run hi hsettled hop
        rw [Run.advanceTo, unfold_of_isEnded _ _ he] at hrun hrecords
        exact ⟨hrun, hrecords⟩
    obtain ⟨hrun, hrecords⟩ := ih hstep.1
    rw [Rehearsal.play, recordsOf_append, hstep.2, hrecords]
    exact ⟨hrun, rfl⟩

/-- A run that has started has begun and done what can happen at once. -/
theorem begun_of_start {q : RunRequest} {seen : List Sight} (hs : h.start q = .ok (i, h₁, seen)) :
    i = h.runs.length ∧ h₁.clock = h.clock ∧ ∃ a, h.runner.address q = .ok a ∧
      let begun := Run.begin h.clock (h.connections.headD .absent)
        (.create a q.token h.runner.limits)
      h₁.runs[i]? = some (begun.1.advanceTo h.clock).1 ∧
        recordsOf i seen = begun.2 ++ (begun.1.advanceTo h.clock).2 := by
  rw [start_eq] at hs
  cases hr : h.runner.start q with
  | error p => simp [hr] at hs
  | ok started =>
    obtain ⟨runner, session⟩ := started
    obtain ⟨-, -, a, ha, rfl⟩ := h.runner.start_ok hr
    simp only [hr, Except.ok.injEq, Prod.mk.injEq] at hs
    obtain ⟨rfl, rfl, rfl⟩ := hs
    refine ⟨rfl, rfl, a, ha, ?_⟩
    generalize Run.begin h.clock (h.connections.headD .absent) _ = begun
    exact ⟨by simp, recordsOf_sightsOf_self _⟩

/-- A run whose deadline the clock cannot show is released at its start, and that is all. -/
theorem lost_play {q : RunRequest} {seen : List Sight} (hs : h.start q = .ok (i, h₁, seen))
    (hd : Session.deadline? h.clock h.runner.limits = none) (ops : List Op) :
    (∃ r, (h₁.play ops).1.runs[i]? = some r ∧ r.session.phase = .lost) ∧
      recordsOf i (seen ++ (h₁.play ops).2) = [⟨h.clock, .event .released⟩] := by
  obtain ⟨-, -, a, -, hrun, hrecords⟩ := begun_of_start hs
  let s := Session.create a q.token h.runner.limits
  have hlost : s.abandon.session.isEnded = true := rfl
  rw [begin_of_no_deadline (s := s) hd, Run.advanceTo, unfold_of_isEnded _ _ hlost] at hrun hrecords
  obtain ⟨hrun', hrecords'⟩ := play_of_isEnded hrun hlost ops
  refine ⟨⟨_, hrun', rfl⟩, ?_⟩
  rw [recordsOf_append, hrecords, hrecords']
  rfl

theorem tracked_start {q : RunRequest} {seen : List Sight} (hs : h.start q = .ok (i, h₁, seen))
    {d : ℕ} (hd : Session.deadline? h.clock h.runner.limits = some d) :
    Tracked ⟨h.clock, h.connections.headD .absent, h.runner.limits⟩ none (recordsOf i seen) i
      h₁ := by
  obtain ⟨-, hclock, a, -, hrun, hrecords⟩ := begun_of_start hs
  obtain ⟨hopened, hnow⟩ :=
    timeline_opened h.clock (h.connections.headD .absent) a q.token h.runner.limits
  rw [begin_of_deadline (s := .create a q.token h.runner.limits) hd] at hrun hrecords
  refine ⟨_, hrun, ?_⟩
  rw [hrecords, hclock]
  exact hopened.advanceTo le_rfl (by simp) fun ρ hρ => (hnow ρ hρ).le

theorem Tracked.perform (ht : Tracked g aborted es i h) (op : Op) :
    Tracked g (aborted.or (if op = .abort i then some h.clock else none))
      (es ++ recordsOf i (h.perform op).2) i (h.perform op).1 := by
  obtain ⟨r, hi, htime⟩ := ht
  by_cases hop : op = .abort i
  · subst hop
    obtain ⟨hclock, hrun, hrecords⟩ := abort_run hi
    rw [if_pos rfl]
    refine ⟨_, hrun, ?_⟩
    simp only [Rehearsal.perform, hrecords, hclock]
    exact htime.abort
  · obtain ⟨hle, hrun, hrecords⟩ := perform_run hi htime.settled hop
    rw [if_neg hop, Option.or_none, hrecords]
    exact ⟨_, hrun, htime.advanceTo hle⟩

theorem Tracked.play (ht : Tracked g aborted es i h) (ops : List Op) :
    Tracked g (aborted.or (abortTime? i h ops)) (es ++ recordsOf i (h.play ops).2) i
      (h.play ops).1 := by
  induction ops generalizing h aborted es with
  | nil => simpa [Rehearsal.play, abortTime?, recordsOf] using ht
  | cons op ops ih =>
    have hops := ih (ht.perform op)
    rw [Option.or_assoc] at hops
    simp only [Rehearsal.play, abortTime?, recordsOf_append]
    by_cases hop : op = .abort i
    · simpa [hop] using hops
    · simpa [hop] using hops

end Testbed.Rehearsal
