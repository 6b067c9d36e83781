import Mathlib.Data.ENat.Lattice
import Testbed.Proofs.Rehearsal.Tracking

/-!
# The timing of a run

A run has one deadline, which no message renews, and the times of its ends have a closed form: its
streaming phase ends when its script decides it, at its deadline or at its first abort, whichever
comes first, and only a script that leaves a connection makes it wait for a close.
-/

namespace Testbed

def Session.outcome? (s : Session) : Option Session.Outcome :=
  match s.phase with
  | .closing o _ | .ended o => some o
  | _ => none

namespace Rehearsal

open Session (Limits Outcome Phase Signal)

def moment (t : Option ℕ) : ℕ∞ := t.elim ⊤ (↑)

@[simp] theorem moment_none : moment none = ⊤ := rfl

@[simp] theorem moment_some (t : ℕ) : moment (some t) = t := rfl

theorem coe_le_moment {t : ℕ} {a : Option ℕ} :
    (t : ℕ∞) ≤ moment a ↔ ∀ u, a = some u → t ≤ u := by
  cases a <;> simp

theorem coe_lt_moment {t : ℕ} {a : Option ℕ} :
    (t : ℕ∞) < moment a ↔ ∀ u, a = some u → t < u := by
  cases a <;> simp

/-- What becomes of a run on this connection, from its start on, if nothing interrupts it. -/
def Connection.fate? [Json.Wording] (k : Connection) : Option Fate := Rehearsal.fate? 0 k.replies

def Connection.decision [Json.Wording] (k : Connection) : ℕ∞ := moment (k.fate?.map Fate.time)

section Foresight

variable {_ : Json.Wording} {g : Setting} {aborted : Option ℕ} {now : ℕ} {es : List Record}
  {r : Run}

/-- When a run that began to close at some time is released if nobody aborts it. -/
def Setting.closed (g : Setting) (e : ℕ) : ℕ :=
  match g.script.close.delay? with
  | none => g.closeBy e
  | some d => e + min d (Session.closeWait e g.limits)

theorem ending_closed {e : ℕ} {o : Outcome} (fate : g.fate? = some ⟨e, o, true⟩)
    (due : e ≤ g.deadline) : Ending g none e (g.closed e) o := by
  unfold Setting.closed
  cases hd : g.script.close.delay? with
  | none =>
    exact .closed fate due (Nat.le_add_right _ _) le_rfl (by simp [hd]) (by simp) (.inl rfl)
  | some d =>
    refine .closed fate due (Nat.le_add_right _ _) ?_ ?_ (by simp) ?_
    · exact Nat.add_le_add_left (Nat.min_le_right _ _) e
    · simp only [hd, Option.some.injEq]
      rintro _ rfl
      exact Nat.add_le_add_left (Nat.min_le_left _ _) e
    · rcases Nat.le_total d (Session.closeWait e g.limits) with hle | hle
      · exact .inr (.inl ⟨d, hd, by simp [hle]⟩)
      · exact .inl (by simp [hle, Setting.closeBy])

theorem exists_ending [Json.Wording] (g : Setting) : ∃ e x o, Ending g none e x o := by
  have early (m t : ℕ) (ht : (none : Option ℕ) = some t) : m ≤ t := by cases ht
  cases hf : g.fate? with
  | none => exact ⟨_, _, _, .timedOut (by simp [hf]) (early _)⟩
  | some f =>
    obtain ⟨e, o, connected⟩ := f
    by_cases hle : e ≤ g.deadline
    · cases connected with
      | false => exact ⟨_, _, _, .lost hf hle (early _)⟩
      | true => exact ⟨_, _, _, ending_closed hf hle⟩
    · refine ⟨_, _, _, .timedOut ?_ (early _)⟩
      rintro f hf'
      obtain rfl := Option.some.inj (hf.symm.trans hf')
      exact Nat.lt_of_not_le hle

theorem Ending.le {e x : ℕ} {o : Outcome} (h : Ending g aborted e x o) : e ≤ x := by
  cases h <;> first | exact le_rfl | assumption

theorem Ending.lt_of_undecided {e x : ℕ} {o : Outcome} (h : Ending g none e x o)
    (deadline : now < g.deadline) (fate : ∀ f, g.fate? = some f → now < f.time) : now < e := by
  cases h with
  | lost hf => exact fate _ hf
  | closed hf => exact fate _ hf
  | timedOut => exact deadline
  | cancelled abort => cases abort

structure Seen (now e x : ℕ) (o : Outcome) (es : List Record) (s : Session) : Prop where
  decided : decidedAt? es = if e ≤ now then some e else none
  outcome : e ≤ now → s.outcome? = some o
  released : releases es = if x ≤ now then [x] else []
  report : x ≤ now → ∃ rep, s.report? = some rep ∧ rep.outcome = o

/-- A run that has done all that is due is on the way to one of its endings. -/
theorem OnTime.exists_ending (h : OnTime g aborted now es r) :
    ∃ e x o, Ending g aborted e x o ∧ Seen now e x o es r.session := by
  cases h.timeline.stage with
  | streaming hs abort =>
    obtain ⟨hdeadline, hfate⟩ := hs.lt_of_settled h.settled
    obtain ⟨e, x, o, hending⟩ := Rehearsal.exists_ending g
    have he := hending.lt_of_undecided hdeadline hfate
    have hx := he.trans_le hending.le
    refine ⟨e, x, o, abort ▸ hending, ?_, by omega, ?_, by omega⟩
    · rw [hs.decided, if_neg he.not_ge]
    · rw [hs.released, if_neg hx.not_ge]
  | @closing e o c hc abort =>
    obtain ⟨hlimit, hanswer⟩ := hc.lt_of_settled h.settled
    have he := h.decided_le hc.decided
    have hx : now < g.closed e := by
      unfold Setting.closed
      cases hd : g.script.close.delay? with
      | none => exact hlimit
      | some d =>
        have := hanswer d hd
        simp only [Setting.closeBy] at hlimit ⊢
        omega
    refine ⟨e, g.closed e, o, abort ▸ ending_closed hc.fate hc.due, ?_, ?_, ?_, by omega⟩
    · rw [hc.decided, if_pos he]
    · simp [Session.outcome?, hc.phase]
    · rw [hc.released, if_neg hx.not_ge]
  | @ended e x o phase ending decided released =>
    have hx := h.released_le released
    have he := ending.le.trans hx
    refine ⟨e, x, o, ending, ?_, ?_, ?_, ?_⟩
    · rw [decided, if_pos he]
    · simp [Session.outcome?, phase]
    · rw [released, if_pos hx]
    · simp [Session.report?, phase]

end Foresight

section ClosedForm

variable {_ : Json.Wording} {g : Setting} {aborted : Option ℕ} {e x : ℕ} {o : Outcome}

theorem fate?_setting [Json.Wording] (g : Setting) :
    g.fate? = g.script.fate?.map fun f => ⟨g.start + f.time, f.outcome, f.connected⟩ :=
  fate?_add 0 g.script.replies g.start

theorem exists_of_fate? [Json.Wording] {f : Fate} (h : g.fate? = some f) :
    ∃ f', g.script.fate? = some f' ∧ f.time = g.start + f'.time := by
  rw [fate?_setting] at h
  obtain ⟨f', hf', rfl⟩ := Option.map_eq_some_iff.mp h
  exact ⟨f', hf', rfl⟩

theorem start_add_decision (g : Setting) :
    (g.start : ℕ∞) + g.script.decision = moment (g.fate?.map Fate.time) := by
  rw [fate?_setting, Connection.decision]
  cases g.script.fate? <;> simp

theorem start_add_abort (h : ∀ t, aborted = some t → g.start ≤ t) :
    (g.start : ℕ∞) + moment (aborted.map (· - g.start)) = moment aborted := by
  cases aborted with
  | none => simp
  | some t =>
    have := h t rfl
    simp only [Option.map_some, moment_some]
    norm_cast
    omega

theorem add_moment (t : ℕ) (a : Option ℕ) : (t : ℕ∞) + moment a = moment (a.map (t + ·)) := by
  cases a <;> simp

theorem add_abort_sub {d : ℕ} (h : ∀ t, aborted = some t → g.start + d < t) :
    (g.start : ℕ∞) + d + (moment (aborted.map (· - g.start)) - d) = moment aborted := by
  cases aborted with
  | none => simp
  | some t =>
    have := h t rfl
    simp only [Option.map_some, moment_some]
    norm_cast
    omega

theorem le_decided {b : ℕ} (h : ∀ f, g.fate? = some f → b ≤ f.time) :
    (b : ℕ∞) ≤ moment (g.fate?.map Fate.time) := by
  rw [coe_le_moment]
  intro u hu
  obtain ⟨f, hf, rfl⟩ := Option.map_eq_some_iff.mp hu
  exact h f hf

theorem decision_eq {k : Connection} {f : Fate} (hf : k.fate? = some f) : k.decision = f.time := by
  simp [Connection.decision, hf]

theorem lt_decision_iff {k : Connection} {b : ℕ} :
    (b : ℕ∞) < k.decision ↔ ∀ f, k.fate? = some f → b < f.time := by
  rw [Connection.decision, coe_lt_moment]
  simp

theorem lt_abort_iff {s b : ℕ} : (b : ℕ∞) < moment (aborted.map (· - s)) ↔
    ∀ t, aborted = some t → s + b < t := by
  rw [coe_lt_moment]
  simp only [Option.map_eq_some_iff, forall_exists_index, and_imp, forall_apply_eq_imp_iff₂]
  exact forall₂_congr fun t _ => by omega

/-- The streaming phase ends at the first of the competing times. -/
theorem Ending.decided_eq (h : Ending g aborted e x o)
    (ha : ∀ t, aborted = some t → g.start ≤ t) :
    (e : ℕ∞) = g.start + min g.script.decision
      (min ↑g.limits.run (moment (aborted.map (· - g.start)))) := by
  have hdeadline : (g.start : ℕ∞) + g.limits.run = g.deadline := by simp [Setting.deadline]
  rw [← min_add_add_left, ← min_add_add_left, start_add_decision, start_add_abort ha, hdeadline]
  have hlast {b : ℕ} (due : b ≤ g.deadline) (early : ∀ t, aborted = some t → b ≤ t) :
      (b : ℕ∞) ≤ min ↑g.deadline (moment aborted) :=
    le_min (Nat.cast_le.mpr due) (coe_le_moment.mpr early)
  cases h with
  | lost fate due early =>
    rw [fate]
    exact (min_eq_left (hlast due early)).symm
  | closed fate due later limit answer early cause =>
    rw [fate]
    exact (min_eq_left (hlast due fun t ht => later.trans (early t ht))).symm
  | timedOut fate early =>
    have hfate := le_decided fun f hf => (fate f hf).le
    rw [min_eq_left (coe_le_moment.mpr early), min_eq_right hfate]
  | cancelled abort due fate =>
    have hfate := le_decided fun f hf => (fate f hf).le
    rw [abort, moment_some, min_eq_right (Nat.cast_le.mpr due.le), min_eq_right hfate]

/-- A script that decides first is what the run comes to, and a connection that it leaves is closed
by its answer, at the limit or by an abort. -/
theorem Ending.own (h : Ending g aborted e x o) {f : Fate} (hf : g.script.fate? = some f)
    (hrun : f.time < g.limits.run) (habort : ∀ t, aborted = some t → g.start + f.time < t) :
    o = f.outcome ∧ (x : ℕ∞) =
      if f.connected then
        g.start + f.time + min (moment g.script.close.delay?)
          (min ↑(Session.closeWait e g.limits) (moment (aborted.map (· - g.start)) - f.time))
      else g.start + f.time := by
  have hfate := fate?_setting g
  rw [hf, Option.map_some] at hfate
  cases h with
  | timedOut fate early =>
    have hlt : g.start + g.limits.run < g.start + f.time := fate _ hfate
    omega
  | cancelled abort due fate =>
    have hlt : e < g.start + f.time := fate _ hfate
    exact absurd (habort e abort) hlt.not_gt
  | lost fate due early =>
    obtain ⟨rfl, rfl, hc⟩ : g.start + f.time = e ∧ f.outcome = o ∧ f.connected = false := by
      simpa [hfate] using fate
    simp [hc]
  | closed fate due later limit answer early cause =>
    obtain ⟨rfl, rfl, hc⟩ : g.start + f.time = e ∧ f.outcome = o ∧ f.connected = true := by
      simpa [hfate] using fate
    refine ⟨rfl, ?_⟩
    rw [hc, if_pos rfl, ← min_add_add_left, ← min_add_add_left, add_abort_sub habort,
      ← Nat.cast_add, add_moment, ← Nat.cast_add]
    refine le_antisymm (le_min ?_ (le_min (Nat.cast_le.mpr limit) (coe_le_moment.mpr early))) ?_
    · rw [coe_le_moment]
      intro u hu
      obtain ⟨d, hd, rfl⟩ := Option.map_eq_some_iff.mp hu
      exact answer d hd
    · rcases cause with rfl | ⟨d, hd, rfl⟩ | habort
      · exact (min_le_right _ _).trans (min_le_left _ _)
      · rw [hd]
        exact min_le_left _ _
      · rw [habort]
        exact (min_le_right _ _).trans (min_le_right _ _)

theorem Ending.timedOut_of_lt (h : Ending g aborted e x o)
    (hfate : ∀ f, g.script.fate? = some f → g.limits.run < f.time)
    (habort : ∀ t, aborted = some t → g.deadline < t) : o = .timedOut ∧ x = g.deadline := by
  have hlate (f : Fate) (hf : g.fate? = some f) : g.deadline < f.time := by
    obtain ⟨f', hf', htime⟩ := exists_of_fate? hf
    exact htime ▸ Nat.add_lt_add_left (hfate f' hf') g.start
  cases h with
  | timedOut => exact ⟨rfl, rfl⟩
  | lost fate due => exact absurd (hlate _ fate) due.not_gt
  | closed fate due => exact absurd (hlate _ fate) due.not_gt
  | cancelled abort due => exact absurd (habort _ abort) due.not_gt

theorem Ending.cancelled_of_lt (h : Ending g aborted e x o) {t : ℕ} (ht : aborted = some t)
    (hfate : ∀ f, g.script.fate? = some f → t < g.start + f.time) (hrun : t < g.deadline) :
    o = .cancelled ∧ x = t := by
  have hlate (f : Fate) (hf : g.fate? = some f) : t < f.time := by
    obtain ⟨f', hf', htime⟩ := exists_of_fate? hf
    exact htime ▸ hfate f' hf'
  cases h with
  | cancelled abort => exact ⟨rfl, Option.some.inj (abort.symm.trans ht)⟩
  | timedOut fate early => exact absurd hrun (early t ht).not_gt
  | lost fate due early => exact absurd (hlate _ fate) (early t ht).not_gt
  | closed fate due later limit answer early =>
    exact absurd (hlate _ fate) (later.trans (early t ht)).not_gt

end ClosedForm

/-- The streaming phase of a run ends after the delays of its script, at the run's limit or with its
first abort, whichever is first, and with the outcome of what was first. The run is released then,
or, if its script has left a connection, at the end of closing. A run whose deadline the clock cannot
show is released at its start. -/
theorem run_timing [Json.Wording] {h h₁ : Rehearsal} {q : RunRequest} {i : ℕ} {seen : List Sight}
    (hs : h.start q = .ok (i, h₁, seen)) (ops : List Op) :
    let l := h.runner.limits
    let h₂ := (h₁.play ops).1
    let es := recordsOf i (seen ++ (h₁.play ops).2)
    (Session.deadline? h.clock l = none →
      (∃ r, h₂.runs[i]? = some r ∧ r.session.phase = .lost) ∧
        es = [⟨h.clock, .event .released⟩]) ∧
    (Session.deadline? h.clock l ≠ none →
      let s : ℕ∞ := h.clock
      let script := h.connections.headD .absent
      let D := script.decision
      let R : ℕ∞ := l.run
      let A := moment ((abortTime? i h₁ ops).map (· - h.clock))
      let c := moment script.close.delay?
      ∃ (r : Run) (e x : ℕ) (o : Outcome), h₂.runs[i]? = some r ∧
        Seen h₂.clock e x o es r.session ∧
        (e : ℕ∞) = s + min D (min R A) ∧
        (∀ f, script.fate? = some f → D < min R A →
          let C : ℕ∞ := Session.closeWait e l
          o = f.outcome ∧
            (x : ℕ∞) = if f.connected then s + D + min c (min C (A - D)) else s + D) ∧
        (R < min D A → o = .timedOut ∧ (x : ℕ∞) = s + R) ∧
        (A < min D R → o = .cancelled ∧ (x : ℕ∞) = s + A) ∧
        ((e + l.close) / 1000 < Session.clockSeconds → Session.closeWait e l = l.close) ∧
        ∀ ρ ∈ es, (ρ.time : ℕ∞) ≤ s + R + l.close) := by
  intro l h₂ es
  refine ⟨fun hd => lost_play hs hd ops, fun hd => ?_⟩
  intro s script D R A c
  obtain ⟨d, hd⟩ := Option.ne_none_iff_exists'.mp hd
  obtain ⟨r, hr, htime⟩ := (tracked_start hs hd).play ops
  rw [Option.none_or, ← recordsOf_append] at htime
  obtain ⟨e, x, o, hending, hseen⟩ := htime.exists_ending
  refine ⟨r, e, x, o, hr, hseen, hending.decided_eq htime.interrupted, ?_, ?_, ?_, ?_, ?_⟩
  · intro f hf hlt
    have hD : D = f.time := decision_eq hf
    rw [hD] at hlt ⊢
    obtain ⟨hrun, habort⟩ := lt_min_iff.mp hlt
    exact hending.own hf (Nat.cast_lt.mp hrun) (lt_abort_iff.mp habort)
  · intro hlt
    obtain ⟨hfate, habort⟩ := lt_min_iff.mp hlt
    obtain ⟨rfl, rfl⟩ := hending.timedOut_of_lt (lt_decision_iff.mp hfate) (lt_abort_iff.mp habort)
    exact ⟨rfl, Nat.cast_add _ _⟩
  · intro hlt
    obtain ⟨hfate, hrun⟩ := lt_min_iff.mp hlt
    cases hab : abortTime? i h₁ ops with
    | none => simp [A, hab] at hrun
    | some t =>
      -- the abort is not before the start, so that its delay says when it was
      have ht : h.clock + (t - h.clock) = t := Nat.add_sub_cancel' (htime.interrupted t hab)
      have hA : A = (t - h.clock : ℕ) := by simp only [A, hab, Option.map_some, moment_some]
      rw [hA] at hfate hrun ⊢
      have hfate' (f : Fate) (hf : script.fate? = some f) : t < h.clock + f.time := by
        have := lt_decision_iff.mp hfate f hf
        omega
      have hrun' : t < h.clock + l.run := by
        have := Nat.cast_lt.mp hrun
        omega
      obtain ⟨rfl, rfl⟩ := hending.cancelled_of_lt hab hfate' hrun'
      exact ⟨rfl, (congrArg Nat.cast ht).symm.trans (Nat.cast_add _ _)⟩
  · exact fun hshown => if_pos hshown
  · intro ρ hρ
    have hle := Nat.cast_le (α := ℕ∞).mpr (htime.timeline.bounded ρ hρ)
    simpa [Setting.deadline, s, R, l] using hle

def slowConnection : Connection where
  connect := ⟨10, some (.ok ())⟩
  send := ⟨5, some (.ok ())⟩
  close := ⟨0, none⟩
  cues := [⟨20, .frame (.text "\x7b\"logs\": [\x7b\"message\": \"open\"\x7d]\x7d")⟩,
    ⟨30, .frame (.text "\x7b\"status\": \"Completed\"\x7d")⟩]

def slowRehearsal : Rehearsal := ⟨7, .create Roster.localResolver {}, [slowConnection], []⟩

def slowAbort : List Op := [.advance 100, .abort 0, .advance 9000]

/-- Decided after 65 milliseconds, the run is still closing when it is aborted after 100. -/
theorem run_timing_slowAbort :
    ∃ h₁ seen, slowRehearsal.start Roster.localRequest = .ok (0, h₁, seen) ∧
      let es := recordsOf 0 (seen ++ (h₁.play slowAbort).2)
      decidedAt? es = some 72 ∧ releases es = [107] ∧
        ((h₁.play slowAbort).1.runs[0]?.bind (·.session.outcome?)) = some .completed := by
  obtain ⟨h₁, seen, hs, hA, hnow⟩ : ∃ h₁ seen,
      slowRehearsal.start Roster.localRequest = .ok (0, h₁, seen) ∧
        abortTime? 0 h₁ slowAbort = some 107 ∧ (h₁.play slowAbort).1.clock = 9107 :=
    ⟨_, _, rfl, rfl, rfl⟩
  have hfate : slowConnection.fate? = some ⟨65, .completed, true⟩ := rfl
  have hD : (slowRehearsal.connections.headD .absent).decision = (65 : ℕ) := decision_eq hfate
  have hshown : Session.deadline? slowRehearsal.clock slowRehearsal.runner.limits ≠ none := by
    decide +kernel
  obtain ⟨r, e, x, o, hr, hseen, he, hown, -, -, hwait, -⟩ := (run_timing hs slowAbort).2 hshown
  rw [hA, hD] at he hown
  have he' : e = 72 := Nat.cast_injective (R := ℕ∞) (he.trans rfl)
  have hfirst : ((65 : ℕ) : ℕ∞) < min (30000 : ℕ) (100 : ℕ) :=
    lt_min (Nat.cast_lt.mpr (by decide)) (Nat.cast_lt.mpr (by decide))
  obtain ⟨rfl, hx⟩ := hown _ hfate hfirst
  subst he'
  rw [hwait (by decide +kernel)] at hx
  have hx' : x = 107 := Nat.cast_injective (R := ℕ∞) (hx.trans rfl)
  subst hx'
  rw [hnow] at hseen
  refine ⟨h₁, seen, hs, hseen.decided, hseen.released, ?_⟩
  rw [hr]
  exact hseen.outcome (by decide)

end Rehearsal

end Testbed
