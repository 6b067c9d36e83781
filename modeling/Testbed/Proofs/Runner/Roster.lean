import Testbed.Proofs.Session.Story
import Testbed.Runner

/-!
# Rosters

A runner together with all the sessions it has started. Requests come, sessions begin, and signals
reach any session in any order; a session's task may also be lost. `Kept` ties the runner's gate to
the sessions and to what they have announced, and every operation keeps it.
-/

namespace Testbed

open Session (Effect Move Stimulus)

structure Roster where
  runner : Runner
  sessions : List Session

namespace Roster

abbrev Trace := List (ℕ × Effect)

inductive Op where
  | start (q : RunRequest)
  /-- A session begins, or gets an answer, an alarm or a request to abort. -/
  | move (i : ℕ) (x : Stimulus)
  | abandon (i : ℕ)

def create (resolver : Resolver) (limits : Session.Limits) : Roster :=
  ⟨.create resolver limits, []⟩

/-- Puts a session that has moved in its place; the runner learns what it did. -/
def replace (w : Roster) (i : ℕ) (m : Move) : Roster × Trace :=
  (⟨w.runner.observe m.effects, w.sessions.set i m.session⟩, m.effects.map (i, ·))

def perform [Json.Wording] (w : Roster) : Op → Roster × Trace
  | .start q =>
    match w.runner.attempt q with
    | (runner, .ok s) => (⟨runner, w.sessions ++ [s]⟩, [])
    | (runner, .error _) => ({ w with runner := runner }, [])
  | .move i x =>
    match w.sessions[i]? with
    | some s => w.replace i (s.move x)
    | none => (w, [])
  | .abandon i =>
    match w.sessions[i]? with
    | some s => w.replace i s.abandon
    | none => (w, [])

def play [Json.Wording] (w : Roster) : List Op → Roster × Trace
  | [] => (w, [])
  | op :: ops =>
    let w' := w.perform op
    let w'' := w'.1.play ops
    (w''.1, w'.2 ++ w''.2)

def Announced (es : Trace) (i : ℕ) : Prop := (i, .event .released) ∈ es

def Active (w : Roster) (es : Trace) (i : ℕ) : Prop := i < w.sessions.length ∧ ¬Announced es i

/-- The gate is held by the one session that is active, and every session knows its own state. -/
structure Kept (w : Roster) (es : Trace) : Prop where
  coherent : ∀ s ∈ w.sessions, s.Coherent
  announced : ∀ i s, w.sessions[i]? = some s → (Announced es i ↔ s.isEnded = true)
  started : ∀ i, Announced es i → i < w.sessions.length
  unique : ∀ i j, w.Active es i → w.Active es j → i = j
  busy : w.runner.busy = true ↔ ∃ i, w.Active es i

end Roster

namespace Session

structure Reliable (s : Session) (m : Move) : Prop where
  coherent : m.session.Coherent
  stays : s.isEnded = true → m = .rest s
  released : .event .released ∈ m.effects ↔ s.isEnded = false ∧ m.session.isEnded = true

variable {_ : Json.Wording} {s : Session}

theorem isEnded_of_isStreaming (h : s.phase.isStreaming = true) : s.isEnded = false := by
  unfold isEnded
  split <;> simp_all [Phase.isStreaming]

theorem Turn.released_mem_iff {x : Stimulus} {m : Move} (h : Turn s x m) :
    .event .released ∈ m.effects ↔ s.isEnded = false ∧ m.session.isEnded = true := by
  cases h with
  | ignored => simp [Move.rest]
  | broken hp =>
    have he := isEnded_of_isStreaming (isStreaming_of_fault? hp)
    exact ⟨fun _ => ⟨he, rfl⟩, fun _ => by simp⟩
  | settled e hp => simp [hp, isEnded]
  | begun hp | connected hp | sent hp | wentOn hp | decided hp =>
    simp [hp, isEnded, logEffects]

theorem reliable_move (hs : s.Coherent) (x : Stimulus) : Reliable s (s.move x) :=
  ⟨coherent_move hs x, fun he => move_of_isEnded he x, (turn_move hs x).released_mem_iff⟩

theorem reliable_abandon (hs : s.Coherent) : Reliable s s.abandon := by
  cases he : s.isEnded with
  | true =>
    rw [abandon_of_isEnded he]
    exact ⟨hs, fun _ => rfl, by simp [Move.rest, he]⟩
  | false =>
    rw [abandon_of_live he]
    refine ⟨trivial, ?_, ?_⟩
    · intro h
      cases he.symm.trans h
    · exact ⟨fun _ => ⟨he, rfl⟩, fun _ => by simp⟩

end Session

namespace Runner

variable (r : Runner)

@[simp] theorem observe_nil : r.observe [] = r := rfl

@[simp] theorem observe_cons (e : Effect) (es : List Effect) :
    r.observe (e :: es) = (if e = .event .released then r.giveBack else r).observe es := rfl

theorem observe_append (es es' : List Effect) :
    r.observe (es ++ es') = (r.observe es).observe es' := List.foldl_append

theorem busy_observe (es : List Effect) :
    (r.observe es).busy = true ↔ r.busy = true ∧ .event .released ∉ es := by
  induction es generalizing r with
  | nil => simp
  | cons e es ih =>
    rw [observe_cons, ih, List.mem_cons, not_or]
    by_cases he : e = .event .released
    · simp [he, giveBack]
    · simp [he, Ne.symm he]

/-- All that a release changes of a runner is its gate. -/
theorem exists_observe_eq (es : List Effect) : ∃ busy, r.observe es = { r with busy := busy } := by
  induction es generalizing r with
  | nil => exact ⟨r.busy, rfl⟩
  | cons e es ih =>
    rw [observe_cons]
    split_ifs
    · exact ih r.giveBack
    · exact ih r

@[simp] theorem address_observe (es : List Effect) (q : RunRequest) :
    (r.observe es).address q = r.address q := by
  obtain ⟨busy, h⟩ := r.exists_observe_eq es
  rw [h]
  rfl

theorem attempt_of_busy (h : r.busy = true) (q : RunRequest) :
    r.attempt q = (r, .error .sessionActive) := by
  simp [attempt, take?, h]

/-- Without an address the gate is as it was: it has been taken and given back. -/
theorem attempt_of_free (h : r.busy = false) (q : RunRequest) :
    r.attempt q =
      match r.address q with
      | .error p => (r, .error p)
      | .ok a => ({ r with busy := true }, .ok (.create a q.token r.limits)) := by
  have htake : r.take? = some { r with busy := true } := by simp [take?, h]
  have haddress : Runner.address { r with busy := true } q = r.address q := rfl
  have hgiven : giveBack { r with busy := true } = r := by simp [giveBack, ← h]
  cases hr : r.address q <;> simp [attempt, htake, haddress, hgiven, hr]

theorem attempt_of_start_ok {q : RunRequest} {r' : Runner} {s : Session}
    (h : r.start q = .ok (r', s)) : r.attempt q = (r', .ok s) := by
  unfold start at h
  split at h
  · cases h
  · next held s' he =>
    obtain ⟨rfl, rfl⟩ := Prod.mk.inj (Except.ok.inj h)
    exact he

theorem attempt_of_start_error {q : RunRequest} {p : Problem} (h : r.start q = .error p) :
    r.attempt q = (r, .error p) := by
  unfold start at h
  cases hb : r.busy with
  | true =>
    rw [r.attempt_of_busy hb] at h ⊢
    exact congrArg _ (congrArg _ (Except.error.inj h))
  | false =>
    rw [r.attempt_of_free hb] at h ⊢
    cases ha : r.address q with
    | ok a => simp [ha] at h
    | error p' =>
      rw [ha] at h
      exact congrArg _ (congrArg _ (Except.error.inj h))

theorem start_ok_iff (q : RunRequest) :
    (∃ started, r.start q = .ok started) ↔ r.busy = false ∧ ∃ a, r.address q = .ok a := by
  unfold start
  cases hb : r.busy with
  | true => simp [r.attempt_of_busy hb]
  | false =>
    rw [r.attempt_of_free hb]
    cases r.address q <;> simp

theorem start_error {q : RunRequest} {p : Problem} (h : r.start q = .error p) :
    (r.busy = true ∧ p = .sessionActive) ∨ (r.busy = false ∧ r.address q = .error p) := by
  have ha := r.attempt_of_start_error h
  cases hb : r.busy with
  | true =>
    rw [r.attempt_of_busy hb] at ha
    exact .inl ⟨rfl, (Except.error.inj (Prod.mk.inj ha).2).symm⟩
  | false =>
    rw [r.attempt_of_free hb] at ha
    cases hq : r.address q <;> simp_all

theorem start_ok {q : RunRequest} {r' : Runner} {s : Session} (h : r.start q = .ok (r', s)) :
    r.busy = false ∧ r' = { r with busy := true } ∧
      ∃ a, r.address q = .ok a ∧ s = .create a q.token r.limits := by
  have ha := r.attempt_of_start_ok h
  cases hb : r.busy with
  | true => simp [r.attempt_of_busy hb] at ha
  | false =>
    rw [r.attempt_of_free hb] at ha
    cases hq : r.address q with
    | error p => simp [hq] at ha
    | ok a =>
      simp only [hq, Prod.mk.injEq, Except.ok.injEq] at ha
      exact ⟨rfl, ha.1.symm, a, rfl, ha.2.symm⟩

theorem address_error {q : RunRequest} {p : Problem} (h : r.address q = .error p) :
    ∃ text why, p = .badAddress text why := by
  unfold address Resolver.streamAddress at h
  cases ha : r.resolver.httpAddress "ExecuteWs"
      [("testCaseId", q.testCase), ("script_type", q.kind.name)] with
  | error p' =>
    rw [ha] at h
    obtain rfl : p' = p := Except.error.inj h
    simp only [Resolver.httpAddress] at ha
    split at ha
    · cases ha
    · exact ⟨_, _, (Except.error.inj ha).symm⟩
  | ok a =>
    rw [ha] at h
    simp only [bind, Except.bind] at h
    split at h
    · cases h
    · exact ⟨_, _, (Except.error.inj h).symm⟩

end Runner

namespace Roster

variable {_ : Json.Wording} {w : Roster} {es : Trace}

theorem announced_append {es es' : Trace} {i : ℕ} :
    Announced (es ++ es') i ↔ Announced es i ∨ Announced es' i := List.mem_append

theorem announced_map {es : List Effect} {i j : ℕ} :
    Announced (es.map (i, ·)) j ↔ j = i ∧ .event .released ∈ es := by
  simp [Announced, eq_comm, and_comm]

theorem perform_start_of_ok {q : RunRequest} {r : Runner} {s : Session}
    (h : w.runner.start q = .ok (r, s)) :
    w.perform (.start q) = (⟨r, w.sessions ++ [s]⟩, []) := by
  simp only [perform, w.runner.attempt_of_start_ok h]

theorem perform_start_of_error {q : RunRequest} {p : Problem} (h : w.runner.start q = .error p) :
    w.perform (.start q) = (w, []) := by
  simp only [perform, w.runner.attempt_of_start_error h]

theorem kept_create (resolver : Resolver) (limits : Session.Limits) :
    Kept (create resolver limits) [] where
  coherent := by simp [create]
  announced := by simp [create]
  started := by simp [Announced]
  unique := by simp [Active, create]
  busy := by simp [create, Runner.create, Active]

/-- The only session that can stop being active is the one that moves, by its release. -/
theorem active_replace {i : ℕ} {m : Move} (j : ℕ) :
    (w.replace i m).1.Active (es ++ (w.replace i m).2) j ↔
      w.Active es j ∧ ¬(j = i ∧ .event .released ∈ m.effects) := by
  simp only [Active, Roster.replace, List.length_set, announced_append, announced_map]
  tauto

/-- The gate opens only for the session that holds it. -/
theorem Kept.replace (h : w.Kept es) {i : ℕ} {s : Session} {m : Move}
    (hi : w.sessions[i]? = some s) (hm : s.Reliable m) :
    (w.replace i m).1.Kept (es ++ (w.replace i m).2) where
  coherent t ht := by
    rcases List.mem_or_eq_of_mem_set ht with ht | rfl
    · exact h.coherent t ht
    · exact hm.coherent
  announced j t hj := by
    obtain ⟨hlt, -⟩ := List.getElem?_eq_some_iff.mp hi
    simp only [Roster.replace] at hj ⊢
    rw [announced_append, announced_map, hm.released]
    by_cases hji : j = i
    · subst hji
      rw [List.getElem?_set_self hlt] at hj
      obtain rfl : m.session = t := Option.some.inj hj
      rw [h.announced j s hi]
      cases he : s.isEnded with
      | true => simp [hm.stays he, Move.rest, he]
      | false => simp
    · rw [List.getElem?_set_ne (Ne.symm hji)] at hj
      rw [h.announced j t hj]
      simp [hji]
  started j hj := by
    simp only [Roster.replace, List.length_set]
    rcases announced_append.mp hj with hj | hj
    · exact h.started j hj
    · rw [(announced_map.mp hj).1]
      exact (List.getElem?_eq_some_iff.mp hi).1
  unique j k hj hk := h.unique j k ((active_replace j).mp hj).1 ((active_replace k).mp hk).1
  busy := by
    simp only [active_replace]
    simp only [Roster.replace, Runner.busy_observe, h.busy]
    constructor
    · rintro ⟨⟨j, hj⟩, hr⟩
      exact ⟨j, hj, fun hji => hr hji.2⟩
    · rintro ⟨j, hj, hji⟩
      refine ⟨⟨j, hj⟩, fun hr => hji ⟨?_, hr⟩⟩
      have hsi : w.Active es i :=
        ⟨(List.getElem?_eq_some_iff.mp hi).1, by simp [h.announced i s hi, (hm.released.mp hr).1]⟩
      exact h.unique j i hj hsi

/-- A session that starts while none is active is the only one that is. -/
theorem Kept.active_start (h : w.Kept es) (hb : w.runner.busy = false) (r : Runner) (s : Session)
    (i : ℕ) : Active ⟨r, w.sessions ++ [s]⟩ es i ↔ i = w.sessions.length := by
  constructor
  · rintro ⟨hlt, hi⟩
    simp only [List.length_append, List.length_singleton] at hlt
    by_contra hne
    have hbusy := h.busy.mpr ⟨i, by omega, hi⟩
    rw [hb] at hbusy
    cases hbusy
  · rintro rfl
    exact ⟨by simp, fun hi => absurd (h.started _ hi) (Nat.lt_irrefl _)⟩

theorem Kept.start (h : w.Kept es) {q : RunRequest} {r : Runner} {s : Session}
    (hs : w.runner.start q = .ok (r, s)) :
    Kept ⟨r, w.sessions ++ [s]⟩ es := by
  obtain ⟨hb, rfl, a, -, rfl⟩ := w.runner.start_ok hs
  have hactive := h.active_start hb { w.runner with busy := true }
    (.create a q.token w.runner.limits)
  constructor
  case coherent =>
    intro t ht
    rcases List.mem_append.mp ht with ht | ht
    · exact h.coherent t ht
    · rw [List.mem_singleton.mp ht]
      exact Session.coherent_create _ _ _
  case announced =>
    intro i t hi
    rcases Nat.lt_or_ge i w.sessions.length with hlt | hge
    · exact h.announced i t (by rwa [List.getElem?_append_left hlt] at hi)
    · obtain rfl : i = w.sessions.length := by
        have hbound := (List.getElem?_eq_some_iff.mp hi).1
        simp only [List.length_append, List.length_singleton] at hbound
        omega
      obtain rfl : Session.create a q.token w.runner.limits = t := by simpa using hi
      exact ⟨fun hi => absurd (h.started _ hi) (Nat.lt_irrefl _), fun he => by cases he⟩
  case started =>
    intro i hi
    have hlt := h.started i hi
    simp only [List.length_append, List.length_singleton]
    omega
  case unique =>
    intro i j hi hj
    rw [(hactive i).mp hi, (hactive j).mp hj]
  case busy => simp [hactive]

theorem Kept.perform [Json.Wording] (h : w.Kept es) (op : Op) :
    (w.perform op).1.Kept (es ++ (w.perform op).2) := by
  cases op with
  | start q =>
    cases hs : w.runner.start q with
    | ok started => simpa [perform_start_of_ok hs] using h.start hs
    | error p => simpa [perform_start_of_error hs] using h
  | move i x =>
    simp only [Roster.perform]
    cases hi : w.sessions[i]? with
    | some s =>
      exact h.replace hi (Session.reliable_move (h.coherent s (List.mem_of_getElem? hi)) x)
    | none => simpa using h
  | abandon i =>
    simp only [Roster.perform]
    cases hi : w.sessions[i]? with
    | some s =>
      exact h.replace hi (Session.reliable_abandon (h.coherent s (List.mem_of_getElem? hi)))
    | none => simpa using h

theorem Kept.play [Json.Wording] (h : w.Kept es) (ops : List Op) :
    (w.play ops).1.Kept (es ++ (w.play ops).2) := by
  induction ops generalizing w es with
  | nil => simpa [Roster.play] using h
  | cons op ops ih => simpa [Roster.play] using ih (h.perform op)

theorem play_append (ops ops' : List Op) :
    w.play (ops ++ ops') =
      (((w.play ops).1.play ops').1, (w.play ops).2 ++ ((w.play ops).1.play ops').2) := by
  induction ops generalizing w with
  | nil => rfl
  | cons op ops ih => simp [Roster.play, ih]

def localResolver : Resolver :=
  ⟨⟨[⟨"executews", "run/\x7btestCaseId\x7d"⟩]⟩,
    ⟨"http", "", "", some (.name "localhost"), some 8002, .segments [""], none, none⟩⟩

def localRequest : RunRequest := ⟨"7", .playwright, "secret"⟩

end Roster

end Testbed
