import Testbed.Proofs.Runner.Roster
import Testbed.Rehearsal

/-!
# Histories of a rehearsal

The operations of a caller on a rehearsal and what is seen of them. A rehearsal is a roster with a
clock: whatever it does is the play of some operations on its roster, so that all that holds of
every play of a roster holds of it.
-/

namespace Testbed.Rehearsal

open Session (Effect Move Signal Stimulus)

inductive Op where
  | start (q : RunRequest)
  | advance (ms : ℕ)
  | abort (run : ℕ)
  | await (run : ℕ)
  deriving DecidableEq

def perform [Json.Wording] (h : Rehearsal) : Op → Rehearsal × List Sight
  | .start q =>
    match h.start q with
    | .ok (_, h', sights) => (h', sights)
    | .error _ => ({ h with runner := (h.runner.attempt q).1 }, [])
  | .advance ms => h.advance ms
  | .abort i => h.abort i
  | .await i => h.awaitRun i

def play [Json.Wording] (h : Rehearsal) : List Op → Rehearsal × List Sight
  | [] => (h, [])
  | op :: ops =>
    let h' := h.perform op
    let h'' := h'.1.play ops
    (h''.1, h'.2 ++ h''.2)

def roster (h : Rehearsal) : Roster := ⟨h.runner, h.runs.map Run.session⟩

def traceOf (ss : List Sight) : Roster.Trace := ss.map fun s => (s.run, s.record.effect)

def Explained [Json.Wording] (h h' : Rehearsal) (ss : List Sight) : Prop :=
  ∃ ops, h.roster.play ops = (h'.roster, traceOf ss)

end Testbed.Rehearsal

namespace Testbed

open Session (Effect Move Signal Stimulus)

namespace Roster

variable {_ : Json.Wording} {w : Roster} {i : ℕ} {s : Session}

theorem replace_rest (hi : w.sessions[i]? = some s) : w.replace i (.rest s) = (w, []) := by
  obtain ⟨hlt, he⟩ := List.getElem?_eq_some_iff.mp hi
  subst he
  simp [replace, Move.rest, Runner.observe]

theorem getElem?_replace (hi : w.sessions[i]? = some s) (m : Move) :
    (w.replace i m).1.sessions[i]? = some m.session :=
  List.getElem?_set_self (List.getElem?_eq_some_iff.mp hi).1

theorem replace_replace (m m' : Move) :
    (((w.replace i m).1.replace i m').1, (w.replace i m).2 ++ ((w.replace i m).1.replace i m').2) =
      w.replace i ⟨m'.session, m.effects ++ m'.effects⟩ := by
  simp [replace, Runner.observe_append]

theorem play_moves (hi : w.sessions[i]? = some s) (xs : List Stimulus) :
    w.play (xs.map (.move i)) = w.replace i (s.play xs) := by
  induction xs generalizing w s with
  | nil => exact (replace_rest hi).symm
  | cons x xs ih =>
    simp only [List.map_cons, play, perform, hi, ih (getElem?_replace hi _)]
    exact replace_replace _ _

end Roster

namespace Rehearsal

namespace Run

variable {_ : Json.Wording} (r : Run) (now : ℕ)

theorem follow_induction {P : Run → Prop} {m : Move} (h : P { r with session := m.session })
    (hplace : ∀ r' c, P r' → P (place now r' c)) : P (r.follow now m) := by
  unfold follow
  generalize callsOf m.effects = cs
  induction cs using List.reverseRecOn with
  | nil => exact h
  | append_singleton cs c ih =>
    rw [List.foldl_append]
    exact hplace _ c ih

@[simp] theorem session_place (c : Session.Call) : (r.place now c).session = r.session := by
  cases c with
  | receive => cases hc : r.script.cues <;> simp [place, hc]
  | _ => rfl

@[simp] theorem session_follow (m : Move) : (r.follow now m).session = m.session :=
  r.follow_induction now (P := fun r' => r'.session = m.session) rfl fun r' c h => by
    rw [session_place, h]

@[simp] theorem effects_recordsAt (es : List Effect) :
    (recordsAt now es).map Record.effect = es := by
  simp [recordsAt, Function.comp_def]

/-- Whatever is due is a play of the session. -/
theorem exists_play_unfold (limit : Option ℕ) (fuel : ℕ) :
    ∃ xs : List Signal, r.session.play (xs.map .signal) =
      ⟨(r.unfold limit fuel).1.session, (r.unfold limit fuel).2.map Record.effect⟩ := by
  induction fuel generalizing r with
  | zero => exact ⟨[], rfl⟩
  | succ fuel ih =>
    unfold unfold
    split
    · exact ⟨[], rfl⟩
    · next t x _ =>
      split_ifs
      · exact ⟨[], rfl⟩
      · obtain ⟨xs, hxs⟩ := ih (r.deliver t x).1
        refine ⟨x :: xs, ?_⟩
        simp only [deliver, session_follow] at hxs
        simp [Session.play, Session.move, hxs, deliver]

end Run

section Explanations

variable {_ : Json.Wording} {h h' h'' : Rehearsal} {ss ss' : List Sight}

theorem Explained.refl (h : Rehearsal) : Explained h h [] := ⟨[], rfl⟩

theorem Explained.trans (e : Explained h h' ss) (e' : Explained h' h'' ss') :
    Explained h h'' (ss ++ ss') := by
  obtain ⟨ops, hops⟩ := e
  obtain ⟨ops', hops'⟩ := e'
  refine ⟨ops ++ ops', ?_⟩
  rw [Roster.play_append, hops]
  simp [hops', traceOf]

theorem explained_replace {i : ℕ} {r : Run} {moved : Run × List Record} (hi : h.runs[i]? = some r)
    {xs : List Stimulus}
    (hx : r.session.play xs = ⟨moved.1.session, moved.2.map Record.effect⟩) :
    Explained h (h.replace i moved).1 (h.replace i moved).2 := by
  refine ⟨xs.map (.move i), ?_⟩
  have hs : h.roster.sessions[i]? = some r.session := by simp [roster, hi]
  rw [Roster.play_moves hs, hx]
  simp [Roster.replace, replace, roster, traceOf, sightsOf, List.map_set, Function.comp_def]

theorem explained_moveRuns (time k : ℕ) (h : Rehearsal) :
    Explained h (moveRuns time k h).1 (moveRuns time k h).2 := by
  induction k with
  | zero => exact .refl h
  | succ k ih =>
    simp only [moveRuns]
    cases hr : (moveRuns time k h).1.runs[k]? with
    | none => exact ih
    | some r =>
      obtain ⟨xs, hxs⟩ := r.exists_play_unfold (some time) r.potential
      exact ih.trans (explained_replace hr hxs)

theorem explained_advanceTo (time : ℕ) (h : Rehearsal) :
    Explained h (h.advanceTo time).1 (h.advanceTo time).2 :=
  explained_moveRuns time h.runs.length h

theorem explained_abort (i : ℕ) (h : Rehearsal) : Explained h (h.abort i).1 (h.abort i).2 := by
  unfold abort
  split
  · exact .refl h
  · next r hr =>
    have hplay : r.session.play [.signal .abort] =
        ⟨(r.deliver h.clock .abort).1.session,
          (r.deliver h.clock .abort).2.map Record.effect⟩ := by
      rw [Session.play_singleton]
      simp [Run.deliver, Session.move]
    exact explained_replace hr hplay

theorem begin_of_deadline {now d : ℕ} {s : Session}
    (h : Session.deadline? now s.limits = some d) (k : Connection) :
    Run.begin now k s = Run.opened now (now + s.limits.run) k s := by
  rw [Run.begin, h, Session.eq_of_deadline? h]

theorem begin_of_no_deadline {now : ℕ} {s : Session}
    (h : Session.deadline? now s.limits = none) (k : Connection) :
    Run.begin now k s =
      (⟨s.abandon.session, k, now, none, none⟩, recordsAt now s.abandon.effects) := by
  rw [Run.begin, h]

/-- A run that begins is a session that begins, or one that is abandoned. -/
theorem exists_perform_begin [Json.Wording] (w : Roster) {i : ℕ} {s : Session}
    (hi : w.sessions[i]? = some s) (now : ℕ) (k : Connection) :
    ∃ op, w.perform op =
      w.replace i ⟨(Run.begin now k s).1.session, (Run.begin now k s).2.map Record.effect⟩ := by
  cases hd : Session.deadline? now s.limits with
  | some d =>
    refine ⟨.move i .begin, ?_⟩
    simp [Roster.perform, hi, begin_of_deadline hd, Run.opened, Session.move]
  | none =>
    refine ⟨.abandon i, ?_⟩
    simp [Roster.perform, hi, begin_of_no_deadline hd]

/-- A start begins a run on the next connection and lets happen what can happen at once. -/
theorem start_eq (h : Rehearsal) (q : RunRequest) :
    h.start q =
      match h.runner.start q with
      | .error p => .error p
      | .ok (runner, s) =>
        let begun := Run.begin h.clock (h.connections.headD .absent) s
        let moved := begun.1.advanceTo h.clock
        let h' : Rehearsal :=
          ⟨h.clock, runner, h.left s, h.runs ++ [moved.1]⟩
        .ok (h.runs.length, h'.replace h.runs.length (moved.1, begun.2 ++ moved.2)) := by
  unfold start
  cases h.runner.start q with
  | error p => rfl
  | ok started =>
    obtain ⟨runner, s⟩ := started
    rcases hb : Run.begin h.clock (h.connections.headD .absent) s with ⟨r, es⟩
    rcases ha : r.advanceTo h.clock with ⟨r', es'⟩
    simp only [hb, ha]

theorem explained_start {q : RunRequest} {i : ℕ} (hs : h.start q = .ok (i, h', ss)) :
    Explained h h' ss := by
  rw [start_eq] at hs
  cases hr : h.runner.start q with
  | error p => simp [hr] at hs
  | ok started =>
    obtain ⟨runner, s⟩ := started
    simp only [hr, Except.ok.injEq] at hs
    have hw : h.roster.perform (.start q) = (⟨runner, h.roster.sessions ++ [s]⟩, []) :=
      Roster.perform_start_of_ok hr
    have hi : (h.roster.sessions ++ [s])[h.runs.length]? = some s := by simp [roster]
    obtain ⟨op, hop⟩ := exists_perform_begin ⟨runner, _⟩ hi h.clock (h.connections.headD .absent)
    generalize Run.begin h.clock (h.connections.headD .absent) s = begun at hs hop
    obtain ⟨xs, hxs⟩ := begun.1.exists_play_unfold (some h.clock) begun.1.potential
    generalize hm : begun.1.unfold (some h.clock) begun.1.potential = moved at hxs
    rw [Run.advanceTo, hm] at hs
    -- the new session begins or is lost, and then gets all that is due at once
    refine ⟨.start q :: op :: (xs.map Stimulus.signal).map (.move h.runs.length), ?_⟩
    rw [Roster.play, hw, Roster.play, hop, Roster.play_moves (Roster.getElem?_replace hi _), hxs,
      Roster.replace_replace]
    obtain ⟨-, hs⟩ := Prod.mk.inj hs
    rw [← (Prod.mk.inj hs).1, ← (Prod.mk.inj hs).2]
    simp [Roster.replace, roster, traceOf, sightsOf, Function.comp_def]

/-- A start that is refused leaves all as it was. -/
theorem perform_of_start_error {q : RunRequest} {p : Problem} (hs : h.start q = .error p) :
    h.perform (.start q) = (h, []) := by
  have hr : h.runner.start q = .error p := by
    rw [start_eq] at hs
    cases hr : h.runner.start q <;> simp_all
  simp only [perform, hs, h.runner.attempt_of_start_error hr]

theorem explained_perform (h : Rehearsal) (op : Op) :
    Explained h (h.perform op).1 (h.perform op).2 := by
  cases op with
  | start q =>
    cases hs : h.start q with
    | error p =>
      rw [perform_of_start_error hs]
      exact .refl h
    | ok started =>
      simp only [perform, hs]
      exact explained_start hs
  | advance ms => exact explained_advanceTo _ h
  | abort i => exact explained_abort i h
  | await i =>
    simp only [perform, awaitRun]
    cases h.runs[i]? with
    | none => exact .refl h
    | some r => exact explained_advanceTo _ h

/-- A rehearsal does nothing that a roster cannot do. -/
theorem explained_play (h : Rehearsal) (ops : List Op) :
    Explained h (h.play ops).1 (h.play ops).2 := by
  induction ops generalizing h with
  | nil => exact .refl h
  | cons op ops ih => exact (explained_perform h op).trans (ih _)

end Explanations

end Rehearsal

end Testbed
