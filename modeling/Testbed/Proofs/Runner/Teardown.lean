import Testbed.Proofs.Runner.Transports

/-!
# Teardown at a request

An abort ends a run that is not over: it is logged once, the transport is let go without a close,
and the release follows at once. A run that was aborted before, or that has announced its release,
takes no notice of an abort, so that such an abort can be left out of any play.
-/

namespace Testbed

open Log (Entry)

namespace Session

/-- The outcome of a run that is aborted in a phase: one that is closing has its outcome already. -/
def Phase.cutShort : Phase → Outcome
  | .closing o _ => o
  | _ => .cancelled

def aborted (s : Session) : Session :=
  { s with
    phase := .ended s.phase.cutShort
    state := .failed
    logs := s.logs ++ [.problem .cancelled] }

def teardown (ph : Phase) : List Effect :=
  (if ph.holdsTransport then [.call .drop] else []) ++
    [.event (.log (.problem .cancelled)), .event (.state .failed), .event .released]

section Aborts

variable {_ : Json.Wording} {s : Session} {ph : Phase}

theorem move_abort (hs : s.Coherent) (h : s.isEnded = false) :
    s.move (.signal .abort) = ⟨s.aborted, teardown s.phase⟩ := by
  cases hp : s.phase with
  | idle | connecting | sending | receiving =>
    have hfault : fault? s.limits s.phase .abort = some .cancelled := by rw [hp]; rfl
    rw [(Turn.broken hfault).move_eq hs, aborted, hp]
    rfl
  | closing o c =>
    rw [(Turn.settled (x := .abort) .cutShort hp rfl).move_eq hs, aborted, hp]
    rfl
  | ended | lost => simp [isEnded, hp] at h

theorem eventsOf_teardown (ph : Phase) :
    eventsOf (teardown ph) = [.log (.problem .cancelled), .state .failed, .released] := by
  unfold teardown
  cases ph.holdsTransport <;> rfl

theorem call_mem_teardown {c : Call} (h : .call c ∈ teardown ph) : c = .drop := by
  unfold teardown at h
  cases hh : ph.holdsTransport <;> simp_all

theorem released_mem_teardown (ph : Phase) : .event .released ∈ teardown ph := by
  simp [teardown]

end Aborts

end Session

namespace Roster

def Spent [Json.Wording] (w : Roster) (ops : List Op) (i : ℕ) : Prop :=
  (∃ before after, ops = before ++ .move i (.signal .abort) :: after ∧
    i < (w.play before).1.sessions.length) ∨ Announced (w.play ops).2 i

theorem made_ofRun {i : ℕ} {H : List (ℕ × Session.Moment)} {c : Session.Call} :
    (ofRun i H).Made c ↔ (i, .call c) ∈ effectsOf H := by
  simp only [Session.History.Made, ofRun, effectsOf, List.mem_map, List.mem_filter,
    List.mem_filterMap, decide_eq_true_eq]
  constructor
  · rintro ⟨⟨j, m⟩, ⟨hm, rfl⟩, rfl⟩
    exact ⟨_, hm, rfl⟩
  · rintro ⟨⟨j, m⟩, hm, he⟩
    cases m with
    | heard x => cases he
    | did e =>
      obtain ⟨rfl, rfl⟩ := Prod.mk.inj (Option.some.inj he)
      exact ⟨_, ⟨hm, rfl⟩, rfl⟩

variable [Json.Wording] {w : Roster} {es : Trace} {i : ℕ}

/-- A run that is aborted has announced its release then, if not before. -/
theorem Kept.announced_of_abort (h : w.Kept es) (hi : i < w.sessions.length) :
    Announced (es ++ (w.perform (.move i (.signal .abort))).2) i := by
  have hs := List.getElem?_eq_getElem hi
  cases he : w.sessions[i].isEnded with
  | true => exact announced_append.mpr (.inl ((h.announced i _ hs).mpr he))
  | false =>
    have hcoherent := h.coherent _ (List.getElem_mem hi)
    refine announced_append.mpr (.inr ?_)
    simp only [Roster.perform, hs, Session.move_abort hcoherent he, Roster.replace]
    exact announced_map.mpr ⟨rfl, Session.released_mem_teardown _⟩

theorem Kept.announced_of_spent (h : w.Kept es) {ops : List Op} (hi : w.Spent ops i) :
    Announced (es ++ (w.play ops).2) i := by
  obtain ⟨before, after, rfl, hlt⟩ | hi := hi
  · have habort := (h.play before).announced_of_abort hlt
    rw [play_append, Roster.play, ← List.append_assoc, ← List.append_assoc]
    exact announced_append.mpr (.inl habort)
  · exact announced_append.mpr (.inr hi)

/-- A play does not see an abort of a run that is spent. -/
theorem Kept.play_of_spent (h : w.Kept es) {ops : List Op} (hi : w.Spent ops i)
    (ops' : List Op) : w.play (ops ++ .move i (.signal .abort) :: ops') = w.play (ops ++ ops') := by
  have hrest := (h.play ops).move_of_announced (h.announced_of_spent hi) (.signal .abort)
  rw [play_append, play_append, Roster.play, hrest]
  simp only [List.nil_append]

/-- A run that has announced its release does nothing any more. -/
theorem Kept.silent_perform (h : w.Kept es) (hi : Announced es i) (op : Op) :
    ∀ e, (i, e) ∉ (w.perform op).2 := by
  have hother (j : ℕ) (m : Session.Move) (hj : j ≠ i) (e : Session.Effect) :
      (i, e) ∉ (w.replace j m).2 := by
    simp [Roster.replace, hj]
  intro e
  cases op with
  | start q =>
    cases hs : w.runner.start q with
    | error p => simp [perform_start_of_error hs]
    | ok started => simp [perform_start_of_ok hs]
  | move j x =>
    by_cases hj : j = i
    · rw [hj, h.move_of_announced hi]
      exact List.not_mem_nil
    · simp only [Roster.perform]
      cases w.sessions[j]? with
      | none => exact List.not_mem_nil
      | some s => exact hother j _ hj e
  | abandon j =>
    by_cases hj : j = i
    · rw [hj, h.abandon_of_announced hi]
      exact List.not_mem_nil
    · simp only [Roster.perform]
      cases w.sessions[j]? with
      | none => exact List.not_mem_nil
      | some s => exact hother j _ hj e

theorem Kept.silent_play (h : w.Kept es) (hi : Announced es i) (ops : List Op) :
    ∀ e, (i, e) ∉ (w.play ops).2 := by
  intro e
  induction ops generalizing w es with
  | nil => exact List.not_mem_nil
  | cons op ops ih =>
    rw [Roster.play]
    refine List.not_mem_append (h.silent_perform hi op e) (ih (h.perform op) ?_)
    exact announced_append.mpr (.inl hi)

theorem Recorded.unclosed {qs : List RunRequest} {H : List (ℕ × Session.Moment)}
    (h : w.Recorded qs H) {s : Session} (hi : w.sessions[i]? = some s)
    (hs : s.phase.isStreaming = true) : (i, .call .close) ∉ effectsOf H := by
  have hunclosed := (h.conducted i s hi).knows.unclosed hs
  rwa [made_ofRun] at hunclosed

end Roster

end Testbed
