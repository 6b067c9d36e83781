import Testbed.Proofs.Runner.Gate
import Testbed.Proofs.Session.Conduct

/-!
# The transports of a runner

The history of a roster tells what each of its runs heard and did, in the order in which it
happened. Every run keeps the order of its calls, and since a run drops its transport before it
announces its release, no two transports are ever alive at once.
-/

namespace Testbed.Roster

open Session (Effect History Moment Move Orderly)

def moments [Json.Wording] (w : Roster) : Op → List (ℕ × Moment)
  | .start _ => []
  | .move i x =>
    match w.sessions[i]? with
    | some s => (s.moments x).map (i, ·)
    | none => []
  | .abandon i =>
    match w.sessions[i]? with
    | some s => (s.abandon.effects.map .did).map (i, ·)
    | none => []

def history [Json.Wording] (w : Roster) : List Op → List (ℕ × Moment)
  | [] => []
  | op :: ops => w.moments op ++ (w.perform op).1.history ops

def ofRun (i : ℕ) (H : List (ℕ × Moment)) : History := (H.filter (·.1 = i)).map Prod.snd

def effectsOf (H : List (ℕ × Moment)) : Trace :=
  H.filterMap fun
    | (i, .did e) => some (i, e)
    | (_, .heard _) => none

/-- The requests that are not refused, which are those that start the runs. -/
def requests [Json.Wording] (w : Roster) : List Op → List RunRequest
  | [] => []
  | .start q :: ops =>
    match w.runner.start q with
    | .ok _ => q :: (w.perform (.start q)).1.requests ops
    | .error _ => (w.perform (.start q)).1.requests ops
  | op :: ops => (w.perform op).1.requests ops

def Alive (H : List (ℕ × Moment)) (i : ℕ) : Prop :=
  (ofRun i H).Heard .connected ∧ ¬(ofRun i H).Made .drop

section Views

variable {i j : ℕ}

@[simp] theorem ofRun_append (H H' : List (ℕ × Moment)) :
    ofRun i (H ++ H') = ofRun i H ++ ofRun i H' := by
  simp [ofRun]

@[simp] theorem ofRun_nil : ofRun i [] = [] := rfl

@[simp] theorem ofRun_map_self (ms : History) : ofRun i (ms.map (i, ·)) = ms := by
  simp [ofRun, List.filter_map, Function.comp_def]

theorem ofRun_map_of_ne (hj : j ≠ i) (ms : History) : ofRun i (ms.map (j, ·)) = [] := by
  simp [ofRun, List.filter_map, Function.comp_def, hj]

@[simp] theorem effectsOf_append (H H' : List (ℕ × Moment)) :
    effectsOf (H ++ H') = effectsOf H ++ effectsOf H' := List.filterMap_append

theorem effectsOf_map_did (es : List Effect) :
    effectsOf ((es.map .did).map (i, ·)) = es.map (i, ·) := by
  simp [effectsOf, List.filterMap_map, Function.comp_def]

end Views

section Effects

variable {_ : Json.Wording} (w : Roster)

theorem effectsOf_moments (op : Op) : effectsOf (w.moments op) = (w.perform op).2 := by
  cases op with
  | start q =>
    cases hs : w.runner.start q with
    | error p => rw [perform_start_of_error hs]; rfl
    | ok started => rw [perform_start_of_ok hs]; rfl
  | move i x =>
    simp only [moments, perform]
    cases w.sessions[i]? with
    | none => rfl
    | some s =>
      simp only [Session.moments, List.map_append, effectsOf_append, effectsOf_map_did]
      split_ifs <;> rfl
  | abandon i =>
    simp only [moments, perform]
    cases w.sessions[i]? with
    | none => rfl
    | some s => exact effectsOf_map_did _

theorem effectsOf_history (ops : List Op) : effectsOf (w.history ops) = (w.play ops).2 := by
  induction ops generalizing w with
  | nil => rfl
  | cons op ops ih => rw [history, effectsOf_append, effectsOf_moments, ih, play]

end Effects

/-- The runs of a roster: the requests that started them and what they have heard and done. -/
structure Recorded [Json.Wording] (w : Roster) (qs : List RunRequest)
    (H : List (ℕ × Moment)) : Prop where
  conducted : ∀ (i : ℕ) (s : Session), w.sessions[i]? = some s → s.Conducted (ofRun i H)
  fresh : ∀ i, w.sessions.length ≤ i → ofRun i H = []
  length : qs.length = w.sessions.length
  request : ∀ (i : ℕ) (q : RunRequest) (s : Session), qs[i]? = some q → w.sessions[i]? = some s →
    w.runner.address q = .ok s.address ∧ s.token = q.token

section Records

variable {_ : Json.Wording} {w : Roster} {qs : List RunRequest} {H : List (ℕ × Moment)} {es : Trace}

theorem recorded_create [Json.Wording] (resolver : Resolver) (limits : Session.Limits) :
    (create resolver limits).Recorded [] [] where
  conducted := by simp [create]
  fresh := by simp
  length := rfl
  request := by simp

theorem Recorded.replace (h : w.Recorded qs H) {i : ℕ} {s : Session} {m : Move} {ms : History}
    (hi : w.sessions[i]? = some s) (hm : m.session.Conducted (ofRun i H ++ ms))
    (address : m.session.address = s.address) (token : m.session.token = s.token) :
    (w.replace i m).1.Recorded qs (H ++ ms.map (i, ·)) := by
  obtain ⟨hlt, -⟩ := List.getElem?_eq_some_iff.mp hi
  have hsame (q : RunRequest) : (w.replace i m).1.runner.address q = w.runner.address q :=
    w.runner.address_observe m.effects q
  refine ⟨?_, ?_, ?_, ?_⟩
  · intro j t hj
    rw [Roster.replace] at hj
    by_cases hji : j = i
    · subst hji
      rw [List.getElem?_set_self hlt] at hj
      obtain rfl : m.session = t := Option.some.inj hj
      simpa using hm
    · rw [List.getElem?_set_ne (Ne.symm hji)] at hj
      rw [ofRun_append, ofRun_map_of_ne (Ne.symm hji), List.append_nil]
      exact h.conducted j t hj
  · intro j hj
    simp only [Roster.replace, List.length_set] at hj
    rw [ofRun_append, h.fresh j hj, ofRun_map_of_ne (by omega)]
    rfl
  · simp [Roster.replace, h.length]
  · intro j q t hq hj
    rw [hsame]
    simp only [Roster.replace] at hj
    by_cases hji : j = i
    · subst hji
      rw [List.getElem?_set_self hlt] at hj
      obtain rfl : m.session = t := Option.some.inj hj
      rw [address, token]
      exact h.request j q s hq hi
    · rw [List.getElem?_set_ne (Ne.symm hji)] at hj
      exact h.request j q t hq hj

theorem Recorded.start (h : w.Recorded qs H) {q : RunRequest} {r : Runner} {s : Session}
    (hs : w.runner.start q = .ok (r, s)) :
    Recorded ⟨r, w.sessions ++ [s]⟩ (qs ++ [q]) H := by
  obtain ⟨-, rfl, a, ha, rfl⟩ := w.runner.start_ok hs
  refine ⟨?_, ?_, ?_, ?_⟩
  · intro i t hi
    rcases Nat.lt_or_ge i w.sessions.length with hlt | hge
    · exact h.conducted i t (by rwa [List.getElem?_append_left hlt] at hi)
    · rw [h.fresh i hge]
      obtain rfl : t = Session.create a q.token w.runner.limits := by
        rw [List.getElem?_append_right hge] at hi
        simpa using List.mem_of_getElem? hi
      exact Session.conducted_create _ _ _
  · intro i hi
    simp only [List.length_append, List.length_singleton] at hi
    exact h.fresh i (by omega)
  · simp [h.length]
  · intro i q' t hq hi
    rcases Nat.lt_or_ge i w.sessions.length with hlt | hge
    · rw [List.getElem?_append_left hlt] at hi
      rw [List.getElem?_append_left (h.length ▸ hlt)] at hq
      exact h.request i q' t hq hi
    · rw [List.getElem?_append_right hge] at hi
      rw [List.getElem?_append_right (h.length ▸ hge)] at hq
      have hq' : q' = q := by simpa using List.mem_of_getElem? hq
      obtain rfl : t = Session.create a q.token w.runner.limits := by
        simpa using List.mem_of_getElem? hi
      rw [hq']
      exact ⟨ha, rfl⟩

theorem Recorded.perform (h : w.Recorded qs H) (hk : w.Kept es) (op : Op) :
    (w.perform op).1.Recorded (qs ++ w.requests [op]) (H ++ w.moments op) := by
  cases op with
  | start q =>
    cases hs : w.runner.start q with
    | ok started => simpa [perform_start_of_ok hs, moments, requests, hs] using h.start hs
    | error p => simpa [perform_start_of_error hs, moments, requests, hs] using h
  | move i x =>
    simp only [Roster.perform, moments, requests, List.append_nil]
    cases hi : w.sessions[i]? with
    | none => simpa using h
    | some s =>
      have hs := hk.coherent s (List.mem_of_getElem? hi)
      have hturn := Session.turn_move hs x
      exact h.replace hi ((h.conducted i s hi).move hs x) hturn.address_eq hturn.token_eq
  | abandon i =>
    simp only [Roster.perform, moments, requests, List.append_nil]
    cases hi : w.sessions[i]? with
    | none => simpa using h
    | some s =>
      exact h.replace hi (h.conducted i s hi).abandon s.address_abandon s.token_abandon

theorem requests_cons (w : Roster) (op : Op) (ops : List Op) :
    w.requests (op :: ops) = w.requests [op] ++ (w.perform op).1.requests ops := by
  cases op with
  | start q =>
    simp only [requests]
    cases w.runner.start q <;> rfl
  | move | abandon => rfl

theorem Recorded.play (h : w.Recorded qs H) (hk : w.Kept es) (ops : List Op) :
    (w.play ops).1.Recorded (qs ++ w.requests ops) (H ++ w.history ops) := by
  induction ops generalizing w qs H es with
  | nil => simpa [Roster.play, history, requests] using h
  | cons op ops ih =>
    rw [requests_cons, history, ← List.append_assoc, ← List.append_assoc]
    exact ih (h.perform hk op) (hk.perform op)

/-- A transport is alive only in a run that has not announced its release. -/
theorem Recorded.active_of_alive (h : w.Recorded qs H) (hk : w.Kept es) {i : ℕ}
    (hi : Alive H i) : w.Active es i := by
  obtain ⟨hopened, hdropped⟩ := hi
  have hlt : i < w.sessions.length := by
    by_contra hge
    rw [h.fresh i (Nat.le_of_not_lt hge)] at hopened
    cases hopened
  have hs := List.getElem?_eq_getElem hlt
  have hknows := (h.conducted i _ hs).knows
  have hholds := (hknows.opened.mp hopened).resolve_right hdropped
  refine ⟨hlt, fun hannounced => ?_⟩
  have hended := (hk.announced i _ hs).mp hannounced
  rw [Session.isEnded_of_holdsTransport hholds] at hended
  cases hended

/-- All that happens while an operation is performed happens in one run that is not over. -/
theorem moments_eq_nil_or (hk : w.Kept es) (op : Op) :
    w.moments op = [] ∨ ∃ (i : ℕ) (ms : History), w.Active es i ∧ w.moments op = ms.map (i, ·) := by
  have hactive {i : ℕ} {s : Session} (hi : w.sessions[i]? = some s) (hs : s.isEnded = false) :
      w.Active es i := by
    refine ⟨(List.getElem?_eq_some_iff.mp hi).1, ?_⟩
    simp [hk.announced i s hi, hs]
  cases op with
  | start q => exact .inl rfl
  | move i x =>
    simp only [moments]
    cases hi : w.sessions[i]? with
    | none => exact .inl rfl
    | some s =>
      cases hs : s.isEnded with
      | true =>
        have hrest : s.moments x = [] := by
          rw [Session.moments, Session.heeds_of_isEnded hs, Session.move_of_isEnded hs]
          rfl
        exact .inl (congrArg (List.map (i, ·)) hrest)
      | false => exact .inr ⟨i, _, hactive hi hs, rfl⟩
  | abandon i =>
    simp only [moments]
    cases hi : w.sessions[i]? with
    | none => exact .inl rfl
    | some s =>
      cases hs : s.isEnded with
      | true =>
        have hrest : s.abandon.effects.map Moment.did = [] := by
          rw [Session.abandon_of_isEnded hs]
          rfl
        exact .inl (congrArg (List.map (i, ·)) hrest)
      | false => exact .inr ⟨i, _, hactive hi hs, rfl⟩

/-- At no moment of an operation are two transports alive. -/
theorem Recorded.alive_unique_moments (h : w.Recorded qs H) (hk : w.Kept es) {op : Op}
    {before : List (ℕ × Moment)} (hb : before <+: w.moments op) {i j : ℕ}
    (hi : Alive (H ++ before) i) (hj : Alive (H ++ before) j) : i = j := by
  -- a run that is not the one in which something happens has the transport that it had before
  have hactive (k : ℕ) (hal : Alive (H ++ before) k) : w.Active es k := by
    obtain hnil | ⟨k', ms, hk', hms⟩ := moments_eq_nil_or hk op
    · rw [hnil, List.prefix_nil] at hb
      rw [hb, List.append_nil] at hal
      exact h.active_of_alive hk hal
    · by_cases hne : k' = k
      · exact hne ▸ hk'
      · obtain ⟨ms', -, rfl⟩ : ∃ ms', ms' <+: ms ∧ before = ms'.map (k', ·) := by
          rw [hms, List.prefix_map_iff] at hb
          exact hb
        rw [Alive, ofRun_append, ofRun_map_of_ne hne, List.append_nil] at hal
        exact h.active_of_alive hk hal
  exact hk.unique i j (hactive i hi) (hactive j hj)

/-- At no moment of a play are two transports alive. -/
theorem Recorded.alive_unique (h : w.Recorded qs H) (hk : w.Kept es) {ops : List Op}
    {before after : List (ℕ × Moment)} (hb : w.history ops = before ++ after) {i j : ℕ}
    (hi : Alive (H ++ before) i) (hj : Alive (H ++ before) j) : i = j := by
  induction ops generalizing w qs H es before with
  | nil =>
    obtain ⟨rfl, -⟩ := List.append_eq_nil_iff.mp hb.symm
    rw [List.append_nil] at hi hj
    exact hk.unique i j (h.active_of_alive hk hi) (h.active_of_alive hk hj)
  | cons op ops ih =>
    rw [history] at hb
    obtain ⟨before', rfl, hb'⟩ | ⟨rest, hrest, -⟩ := List.append_eq_append_iff.mp hb
    · rw [← List.append_assoc] at hi hj
      exact ih (h.perform hk op) (hk.perform op) hb' hi hj
    · exact h.alive_unique_moments hk ⟨rest, hrest.symm⟩ hi hj

/-- The run of a request keeps the order of its calls. -/
theorem Recorded.run (h : w.Recorded qs H) {i : ℕ} {q : RunRequest} (hq : qs[i]? = some q) :
    ∃ a, w.runner.address q = .ok a ∧
      (∀ before c after, ofRun i H = before ++ .did (.call c) :: after →
        c.Allowed a q.token before) ∧
      ((ofRun i H).Released → (ofRun i H).Heard .connected → (ofRun i H).Made .drop) := by
  obtain ⟨hlt, -⟩ := List.getElem?_eq_some_iff.mp hq
  have hi := List.getElem?_eq_getElem (h.length ▸ hlt)
  obtain ⟨haddress, htoken⟩ := h.request i q _ hq hi
  obtain ⟨horderly, hknows⟩ := h.conducted i _ hi
  refine ⟨_, haddress, ?_, hknows.dropped_of_released⟩
  intro before c after hb
  have hc := horderly before c after hb
  rwa [List.nil_append, htoken] at hc

end Records

/-- Every run of a runner keeps the order of its calls, with the address and the credential of its
request, and drops before its release the transport that connecting brought it; and at no moment are
two transports alive. -/
theorem transports_kept_in_order [Json.Wording] (resolver : Resolver) (limits : Session.Limits) :
    let free := create resolver limits
    (∀ ops : List Op,
      let w := (free.play ops).1
      let H := free.history ops
      effectsOf H = (free.play ops).2 ∧
      (free.requests ops).length = w.sessions.length ∧
      (∀ i q, (free.requests ops)[i]? = some q →
        ∃ a, free.runner.address q = .ok a ∧
          (∀ before c after, ofRun i H = before ++ .did (.call c) :: after →
            c.Allowed a q.token before) ∧
          ((ofRun i H).Released → (ofRun i H).Heard .connected → (ofRun i H).Made .drop)) ∧
      ∀ before after, H = before ++ after → ∀ i j, Alive before i → Alive before j → i = j) ∧
    ∀ connections (hops : List Rehearsal.Op),
      let h := (Rehearsal.create (.create resolver limits) connections).play hops
      ∃ ops, free.play ops = (h.1.roster, Rehearsal.traceOf h.2) := by
  intro free
  refine ⟨?_, fun connections hops =>
    Rehearsal.explained_play (.create (.create resolver limits) connections) hops⟩
  intro ops w H
  have hk : free.Kept [] := kept_create resolver limits
  have h₀ : free.Recorded [] [] := recorded_create resolver limits
  have h : w.Recorded (free.requests ops) H := by simpa using h₀.play hk ops
  refine ⟨effectsOf_history free ops, h.length, ?_, ?_⟩
  · intro i q hq
    have hsame : w.runner.address q = free.runner.address q := by
      rw [Runner.address, resolver_play, ← Runner.address]
    rw [← hsame]
    exact h.run hq
  · intro before after hb i j hi hj
    exact h₀.alive_unique hk hb hi hj

/-- The peer closes the first run, which holds the gate until its own close is answered; then a
second run connects. -/
def secondRun : List Op :=
  [.start localRequest, .move 0 .begin, .move 0 (.signal .connected), .move 0 (.signal .sent),
    .move 0 (.signal (.received (.close none ""))), .start localRequest,
    .move 0 (.signal .closed), .start localRequest, .move 1 .begin, .move 1 (.signal .connected)]

theorem transports_kept_in_order_secondRun :
    let free := create localResolver {}
    let H := free.history secondRun
    free.requests secondRun = [localRequest, localRequest] ∧
      (∀ text, (ofRun 0 H).Made (.send text) ↔ text = "\x7b\"token\":\"secret\"\x7d") ∧
      (ofRun 0 H).Made .close ∧ (ofRun 0 H).Made .drop ∧ Alive H 1 ∧ ¬Alive H 0 := by
  intro free H
  obtain ⟨-, -, hruns, hunique⟩ := (transports_kept_in_order localResolver {}).1 secondRun
  obtain ⟨a, -, hallowed, hdropped⟩ := hruns 0 localRequest (by decide)
  have htext : authText localRequest.token = "\x7b\"token\":\"secret\"\x7d" := by
    decide +kernel
  have h₁ : Alive H 1 := by
    unfold Alive History.Heard History.Made
    decide
  refine ⟨by decide, fun text => ⟨fun hmade => ?_, ?_⟩, ?_, hdropped ?_ ?_, h₁, fun h₀ => ?_⟩
  · obtain ⟨before, after, hH⟩ := List.append_of_mem hmade
    exact (hallowed before _ after hH).1.trans htext
  · rintro rfl
    unfold History.Made
    decide +kernel
  · unfold History.Made
    decide
  · unfold History.Released
    decide
  · unfold History.Heard
    decide
  · exact absurd (hunique H [] (List.append_nil H).symm 0 1 h₀ h₁) (by decide)

end Testbed.Roster
