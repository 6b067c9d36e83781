import Testbed.Proofs.Rehearsal.Tracking
import Testbed.Proofs.Runner.Teardown

/-!
# Aborts in a rehearsal

An abort of a run that is not over tears it down at the time of the clock and touches no other run.
From then on the run is spent: a further abort changes nothing that is seen, now or later, and
neither does one that comes after the release.
-/

namespace Testbed.Rehearsal

open Session (Effect eventsOf teardown)
open Log (Entry)

/-- A run was aborted before, or its release has been seen. -/
def Spent [Json.Wording] (h : Rehearsal) (ops : List Op) (i : ℕ) : Prop :=
  (∃ before after, ops = before ++ .abort i :: after ∧ i < (h.play before).1.runs.length) ∨
    ∃ t, ⟨i, ⟨t, .event .released⟩⟩ ∈ (h.play ops).2

/-- What an abort does at once to a run, and to nothing else. -/
structure TornDown (h : Rehearsal) (i : ℕ) (r : Run) (h' : Rehearsal) (ss : List Sight) : Prop where
  now : ∀ x ∈ ss, x.run = i ∧ x.record.time = h.clock
  events : eventsOf (ss.map (·.record.effect)) =
    [.log (.ofNow .error "Execution cancelled"), .state .failed, .released]
  calls : ∀ x ∈ ss, ∀ c, x.record.effect = .call c → c = .drop
  report : h'.report? i = some ⟨.failed, r.session.phase.cutShort,
    r.session.logs ++ [.ofNow .error "Execution cancelled"]⟩
  free : h'.runner.busy = false
  clock : h'.clock = h.clock
  connections : h'.connections = h.connections
  others : ∀ j, j ≠ i → h'.runs[j]? = h.runs[j]?

section Views

variable {i : ℕ} {ss : List Sight}

theorem mem_traceOf {e : Effect} : (i, e) ∈ traceOf ss ↔ ∃ t, ⟨i, ⟨t, e⟩⟩ ∈ ss := by
  rw [traceOf, List.mem_map]
  constructor
  · rintro ⟨⟨j, t, e'⟩, hs, he⟩
    obtain ⟨rfl, rfl⟩ := Prod.mk.inj he
    exact ⟨t, hs⟩
  · rintro ⟨t, hs⟩
    exact ⟨_, hs, rfl⟩

@[simp] theorem traceOf_append (ss ss' : List Sight) :
    traceOf (ss ++ ss') = traceOf ss ++ traceOf ss' := List.map_append

theorem getElem?_roster {h : Rehearsal} {r : Run} (hi : h.runs[i]? = some r) :
    h.roster.sessions[i]? = some r.session := by
  simp [roster, hi]

end Views

section Plays

variable [Json.Wording] {h : Rehearsal} {es : Roster.Trace} {i : ℕ} {r : Run}

theorem play_append (h : Rehearsal) (ops ops' : List Op) :
    h.play (ops ++ ops') =
      (((h.play ops).1.play ops').1, (h.play ops).2 ++ ((h.play ops).1.play ops').2) := by
  induction ops generalizing h with
  | nil => rfl
  | cons op ops ih => simp [play, ih]

/-- A rehearsal keeps what every play of a roster keeps. -/
theorem kept_play (hk : h.roster.Kept es) (ops : List Op) :
    (h.play ops).1.roster.Kept (es ++ traceOf (h.play ops).2) := by
  obtain ⟨rops, hrops⟩ := explained_play h ops
  have hkept := hk.play rops
  rwa [hrops] at hkept

theorem silent_play (hk : h.roster.Kept es) (hi : Roster.Announced es i) (ops : List Op) :
    ∀ x ∈ (h.play ops).2, x.run ≠ i := by
  obtain ⟨rops, hrops⟩ := explained_play h ops
  have hsilent := hk.silent_play hi rops
  rw [hrops] at hsilent
  rintro ⟨j, t, e⟩ hx rfl
  exact hsilent e (mem_traceOf.mpr ⟨t, hx⟩)

theorem abort_of_isEnded (hi : h.runs[i]? = some r) (he : r.session.isEnded = true) :
    h.abort i = (h, []) := by
  obtain ⟨hlt, hget⟩ := List.getElem?_eq_some_iff.mp hi
  subst hget
  simp [abort, hi, Run.deliver_of_isEnded he, replace, sightsOf, Runner.observe]

theorem abort_of_live (hi : h.runs[i]? = some r) (hs : r.session.Coherent)
    (he : r.session.isEnded = false) :
    h.abort i = h.replace i (r.follow h.clock ⟨r.session.aborted, teardown r.session.phase⟩,
      recordsAt h.clock (teardown r.session.phase)) := by
  have hm : r.session.step .abort = ⟨r.session.aborted, teardown r.session.phase⟩ :=
    Session.move_abort hs he
  simp only [abort, hi, Run.deliver, hm]

theorem tornDown_of_live (hi : h.runs[i]? = some r) (hs : r.session.Coherent)
    (he : r.session.isEnded = false) : TornDown h i r (h.abort i).1 (h.abort i).2 := by
  obtain ⟨hlt, -⟩ := List.getElem?_eq_some_iff.mp hi
  rw [abort_of_live hi hs he]
  have heffects : (sightsOf i (recordsAt h.clock (teardown r.session.phase))).map
      (·.record.effect) = teardown r.session.phase := by
    simp [sightsOf, recordsAt, Function.comp_def]
  have hmem (x : Sight) (hx : x ∈ sightsOf i (recordsAt h.clock (teardown r.session.phase))) :
      x.run = i ∧ x.record.time = h.clock ∧ x.record.effect ∈ teardown r.session.phase := by
    simp only [sightsOf, recordsAt, List.map_map, List.mem_map] at hx
    obtain ⟨e, he, rfl⟩ := hx
    exact ⟨rfl, rfl, he⟩
  refine ⟨fun x hx => ⟨(hmem x hx).1, (hmem x hx).2.1⟩, ?_, ?_, ?_, ?_, rfl, rfl, ?_⟩
  · rw [replace, heffects]
    exact Session.eventsOf_teardown _
  · intro x hx c hc
    exact Session.call_mem_teardown (hc ▸ (hmem x hx).2.2)
  · simp only [report?, replace, List.getElem?_set_self hlt, Option.bind_some, Run.session_follow]
    rfl
  · rw [replace, Bool.eq_false_iff, ne_eq, Runner.busy_observe]
    simp [Session.released_mem_teardown]
  · intro j hj
    exact List.getElem?_set_ne (Ne.symm hj)

/-- A run that has announced its release is not touched by an abort. -/
theorem abort_of_announced (hk : h.roster.Kept es) (hi : Roster.Announced es i) :
    h.abort i = (h, []) := by
  have hlt : i < h.runs.length := by simpa [roster] using hk.started i hi
  have hget := List.getElem?_eq_getElem hlt
  exact abort_of_isEnded hget ((hk.announced i _ (getElem?_roster hget)).mp hi)

theorem roster_abort (h : Rehearsal) (i : ℕ) :
    h.roster.perform (.move i (.signal .abort)) = ((h.abort i).1.roster, traceOf (h.abort i).2) := by
  cases hi : h.runs[i]? with
  | none => simp [abort, hi, Roster.perform, roster, traceOf]
  | some r =>
    simp only [Roster.perform, getElem?_roster hi, abort, hi]
    simp [Roster.replace, replace, roster, traceOf, sightsOf, Run.deliver, recordsAt,
      Session.move, List.map_set, Function.comp_def]

theorem announced_of_spent (hk : h.roster.Kept es) {ops : List Op} (hi : h.Spent ops i) :
    Roster.Announced (es ++ traceOf (h.play ops).2) i := by
  obtain ⟨before, after, rfl, hlt⟩ | hi := hi
  · have hlt' : i < (h.play before).1.roster.sessions.length := by simpa [roster] using hlt
    have habort := (kept_play hk before).announced_of_abort hlt'
    rw [roster_abort] at habort
    rw [play_append, play, traceOf_append, traceOf_append, ← List.append_assoc,
      ← List.append_assoc]
    exact Roster.announced_append.mpr (.inl habort)
  · exact Roster.announced_append.mpr (.inr (mem_traceOf.mpr hi))

/-- An abort of a run that is spent can be left out. -/
theorem play_of_spent (hk : h.roster.Kept es) {ops : List Op} (hi : h.Spent ops i)
    (ops' : List Op) : h.play (ops ++ .abort i :: ops') = h.play (ops ++ ops') := by
  have hrest := abort_of_announced (kept_play hk ops) (announced_of_spent hk hi)
  rw [play_append, play_append, play, perform, hrest]
  simp only [List.nil_append]

theorem unclosed_of_isStreaming {resolver : Resolver} {limits : Session.Limits}
    {connections : List Connection} {ops : List Op}
    (hi : ((create (.create resolver limits) connections).play ops).1.runs[i]? = some r)
    (hs : r.session.phase.isStreaming = true) (t : ℕ) :
    ⟨i, ⟨t, .call .close⟩⟩ ∉ ((create (.create resolver limits) connections).play ops).2 := by
  obtain ⟨rops, hrops⟩ := explained_play (create (.create resolver limits) connections) ops
  have hrecorded := (Roster.recorded_create resolver limits).play
    (Roster.kept_create resolver limits) rops
  change (Roster.create resolver limits).play rops = _ at hrops
  have hunclosed := hrecorded.unclosed (by rw [hrops]; exact getElem?_roster hi) hs
  rw [List.nil_append, Roster.effectsOf_history, hrops, mem_traceOf] at hunclosed
  exact fun hmem => hunclosed ⟨t, hmem⟩

end Plays

/-- Aborting a run that is not over tears it down at once, without a close unless it was closing, and
nothing is heard of it afterwards. Leaving out an abort of a run that is spent changes nothing, in
any rehearsal and in any play of a roster. -/
theorem abort_tears_down_once [Json.Wording] (resolver : Resolver) (limits : Session.Limits) :
    (∀ connections,
      let free := Rehearsal.create (.create resolver limits) connections
      (∀ ops i,
        let h := (free.play ops).1
        h.roster.Active (traceOf (free.play ops).2) i →
        ∃ r, h.runs[i]? = some r ∧ TornDown h i r (h.abort i).1 (h.abort i).2 ∧
          (∀ ops', ∀ x ∈ ((h.abort i).1.play ops').2, x.run ≠ i) ∧
          (r.session.phase.isStreaming = true → ∀ ops' t,
            ⟨i, ⟨t, .call .close⟩⟩ ∉ (free.play (ops ++ .abort i :: ops')).2)) ∧
      ∀ ops i, free.Spent ops i →
        ∀ ops', free.play (ops ++ .abort i :: ops') = free.play (ops ++ ops')) ∧
    let free := Roster.create resolver limits
    ∀ ops i, free.Spent ops i →
      ∀ ops', free.play (ops ++ .move i (.signal .abort) :: ops') = free.play (ops ++ ops') := by
  have hk : (Roster.create resolver limits).Kept [] := Roster.kept_create resolver limits
  refine ⟨?_, fun ops i hi => hk.play_of_spent hi⟩
  intro connections free
  have hfree : free.roster.Kept [] := hk
  refine ⟨?_, fun ops i hi => play_of_spent hfree hi⟩
  intro ops i h hi
  obtain ⟨hlt, hactive⟩ := hi
  have hkept : h.roster.Kept (traceOf (free.play ops).2) := by simpa using kept_play hfree ops
  obtain ⟨r, hr⟩ : ∃ r, h.runs[i]? = some r :=
    ⟨_, List.getElem?_eq_getElem (by simpa [roster] using hlt)⟩
  have hsession := getElem?_roster hr
  have hlive : r.session.isEnded = false := by
    rw [← Bool.not_eq_true, ← hkept.announced i _ hsession]
    exact hactive
  have hcoherent := hkept.coherent _ (List.mem_of_getElem? hsession)
  have htorn := tornDown_of_live hr hcoherent hlive
  have hafter (ops' : List Op) : ∀ x ∈ ((h.abort i).1.play ops').2, x.run ≠ i := by
    have hannounced := hkept.announced_of_abort hlt
    have hkept' := hkept.perform (.move i (.signal .abort))
    rw [roster_abort] at hannounced hkept'
    exact silent_play hkept' hannounced ops'
  refine ⟨r, hr, htorn, hafter, fun hs ops' t => ?_⟩
  rw [play_append, play]
  refine List.not_mem_append (unclosed_of_isStreaming hr hs t) (List.not_mem_append ?_ ?_)
  · intro hmem
    cases htorn.calls _ hmem _ rfl
  · exact fun hmem => hafter ops' _ hmem rfl

def takenOver : List Op :=
  [.start Roster.localRequest, .advance 5, .abort 0, .start Roster.localRequest]

/-- The first abort ends the first run; a second one does not even touch the gate. -/
theorem abort_tears_down_once_takenOver :
    let free := create (.create Roster.localResolver {}) [{}, {}]
    (∃ h ss r, free.play (takenOver.take 2) = (h, ss) ∧ h.runs[0]? = some r ∧
      r.session.phase = .receiving ∧ TornDown h 0 r (h.abort 0).1 (h.abort 0).2) ∧
    (free.play takenOver).1.runner.busy = true ∧
      ∀ ops, free.play (takenOver ++ .abort 0 :: ops) = free.play (takenOver ++ ops) := by
  intro free
  obtain ⟨htear, hlate⟩ := (abort_tears_down_once Roster.localResolver {}).1 [{}, {}]
  have hactive : (free.play (takenOver.take 2)).1.roster.Active
      (traceOf (free.play (takenOver.take 2)).2) 0 := by
    unfold Roster.Active Roster.Announced
    decide +kernel
  have hwaits : (free.play (takenOver.take 2)).1.runs[0]?.map (·.session.phase) =
      some .receiving := by decide +kernel
  have hspent : free.Spent takenOver 0 := by
    refine Or.inl ⟨takenOver.take 2, takenOver.drop 3, ?_, ?_⟩
    · rfl
    · decide +kernel
  have hbusy : (free.play takenOver).1.runner.busy = true := by decide +kernel
  refine ⟨?_, hbusy, hlate takenOver 0 hspent⟩
  have htorn := htear (takenOver.take 2) 0 hactive
  -- a name for the rehearsal keeps the rest from running it again
  rcases hplay : free.play (takenOver.take 2) with ⟨h, ss⟩
  simp only [free] at hplay hwaits
  simp only [hplay] at htorn hwaits
  obtain ⟨r, hr, htorn, -⟩ := htorn
  rw [hr] at hwaits
  exact ⟨h, ss, r, rfl, hr, Option.some.inj hwaits, htorn⟩

end Testbed.Rehearsal
