import Testbed.Proofs.Session.RunLog

/-!
# The verdict on a run

The outcome of a run is fixed when its streaming phase ends. Closing can spoil the state in which
the session comes to rest, but it can neither mend it nor change the outcome, and it adds to the log
only how it ended itself.
-/

namespace Testbed.Session

open Log (Entry)

def Stimulus.closeEnd? [Json.Wording] : Stimulus → Option CloseEnd
  | .signal .closed => some .acknowledged
  | .signal (.closeFailed p) => some (.failed p)
  | .signal .closeTimedOut => some .timedOut
  | .signal .abort => some .cutShort
  | _ => none

def Stimulus.isPeerClose : Stimulus → Bool
  | .signal (.received (.close ..)) => true
  | _ => false

/-- How closing ended in a run, by the first that could end it. -/
def closeEnd? [Json.Wording] (s : Session) : List Stimulus → Option CloseEnd
  | [] => none
  | x :: xs =>
    (if s.phase.isClosing then x.closeEnd? else none).or ((s.move x).session.closeEnd? xs)

def peerCloses [Json.Wording] (s : Session) (xs : List Stimulus) : Bool :=
  (s.heeded xs).any Stimulus.isPeerClose

/-- What a problem tells about closing, which it may be about already. -/
def closeReason : Problem → String
  | .closeFailed why => why
  | p => p.message

/-- What is told about the end of closing: an abort always, the rest if the peer had not closed. -/
def closeNote (l : Limits) (peerClosed : Bool) : CloseEnd → List Entry
  | .cutShort => [.ofNow .error "Execution cancelled"]
  | .acknowledged =>
    if peerClosed then [] else [.ofNow .info "Connection closed by client"]
  | .failed p =>
    if peerClosed then [] else [.ofNow .error ("Error closing connection: " ++ closeReason p)]
  | .timedOut =>
    if peerClosed then [] else
      [.ofNow .error ("Error closing connection: " ++
        s!"no close acknowledgement within {l.close / 1000} seconds")]

section Closing

variable {_ : Json.Wording} {s : Session} {xs : List Stimulus} {r : Report} {o : Outcome} {c : Bool}

theorem message_closingProblem (p : Problem) :
    (closingProblem p).message = "Error closing connection: " ++ closeReason p := by
  cases p <;> rfl

theorem CloseEnd.entries_eq_closeNote (l : Limits) (e : CloseEnd) (c : Bool) :
    e.entries l c = closeNote l c e := by
  cases e with
  | failed p =>
    cases c with
    | true => rfl
    | false => simp [entries, closeNote, Entry.problem, message_closingProblem]
  | _ => cases c <;> rfl

theorem closeEnd?_eq_some {x : Stimulus} {e : CloseEnd} :
    x.closeEnd? = some e ↔ x = .signal e.signal := by
  constructor
  · intro h
    unfold Stimulus.closeEnd? at h
    split at h <;> cases h <;> rfl
  · rintro rfl
    cases e <;> rfl

theorem closeEnd?_of_not_heeds {x : Stimulus} (hp : s.phase.isClosing = true)
    (hx : s.phase.heeds x = false) : x.closeEnd? = none := by
  by_contra hne
  obtain ⟨e, he⟩ := Option.ne_none_iff_exists'.mp hne
  cases hph : s.phase with
  | closing o c =>
    have hh := heeds_closeEnd o c e
    rw [← closeEnd?_eq_some.mp he, ← hph, hx] at hh
    cases hh
  | _ => simp [hph, Phase.isClosing] at hp

theorem not_isPeerClose_closeEnd (e : CloseEnd) :
    (Stimulus.signal e.signal).isPeerClose = false := by
  cases e <;> rfl

/-- The rest of a run that is closing: one stimulus ends it and says how it is reported. -/
theorem report_of_closing (hs : s.Coherent) (hp : s.phase = .closing o c)
    (h : (s.play xs).session.report? = some r) :
    s.peerCloses xs = false ∧ ∃ e, s.closeEnd? xs = some e ∧
      r = ⟨e.state o c, o, s.logs ++ closeNote s.limits c e⟩ := by
  have hclosing : s.phase.isClosing = true := by rw [hp]; rfl
  induction xs with
  | nil => simp [play, Move.rest, report?, hp] at h
  | cons x xs ih =>
    have hturn := turn_move hs x
    rw [play] at h
    rw [peerCloses, heeded, closeEnd?, hclosing, if_pos rfl]
    generalize s.move x = m at hturn h ⊢
    cases hturn with
    | ignored hx =>
      rw [if_neg (by simp [hx]), closeEnd?_of_not_heeds hclosing hx]
      exact ih h
    | @settled y o' c' e hp' hy =>
      obtain ⟨rfl, rfl⟩ : o' = o ∧ c' = c := by simpa [hp, eq_comm] using hp'
      rw [play_of_isEnded rfl] at h
      rw [hy, hp, if_pos (heeds_closeEnd _ _ e), heeded_of_isEnded rfl,
        closeEnd?_eq_some.mpr rfl]
      refine ⟨?_, e, rfl, ?_⟩
      · simp [not_isPeerClose_closeEnd e]
      · rw [← CloseEnd.entries_eq_closeNote]
        exact (Option.some.inj h).symm
    | broken hp' =>
      have hstreaming := isStreaming_of_fault? hp'
      simp [hp, Phase.isStreaming] at hstreaming
    | begun hp' | connected hp' | sent hp' | wentOn hp' | decided hp' => simp [hp] at hp'

/-- A session that ends with a move was closing before, or it has failed with an outcome that says
so. -/
theorem Turn.failed_of_isEnded {x : Stimulus} {m : Move} (h : Turn s x m)
    (hs : s.isEnded = false) (hp : s.phase.isClosing = false) (hm : m.session.isEnded = true) :
    m.session.state = .failed ∧ ∃ p, m.session.phase = .ended (.ofProblem p) := by
  cases h with
  | ignored => simp [Move.rest, hs] at hm
  | broken => exact ⟨rfl, _, rfl⟩
  | settled e hp' => simp [hp', Phase.isClosing] at hp
  | wentOn hp' => simp [isEnded, hp'] at hm
  | begun | connected | sent | decided => cases hm

theorem failed_or_closing (hs : s.Coherent) (he : s.isEnded = false)
    (h : (s.play xs).session.report? = some r) :
    (r.state = .failed ∧ r.outcome.terminalState = .failed) ∨
      ∃ ys zs o c, xs = ys ++ zs ∧ (s.play ys).session.phase = .closing o c := by
  induction xs generalizing s with
  | nil =>
    have hend := isEnded_of_report? h
    rw [play, Move.rest, he] at hend
    cases hend
  | cons x xs ih =>
    cases hm : (s.move x).session.isEnded with
    | false =>
      obtain hfailed | ⟨ys, zs, o, c, rfl, hp⟩ := ih (coherent_move hs x) hm h
      · exact .inl hfailed
      · exact .inr ⟨x :: ys, zs, o, c, rfl, hp⟩
    | true =>
      cases hp : s.phase with
      | closing o c => exact .inr ⟨[], x :: xs, o, c, rfl, hp⟩
      | _ =>
        obtain ⟨hstate, p, hphase⟩ :=
          (turn_move hs x).failed_of_isEnded he (by rw [hp]; rfl) hm
        rw [play, play_of_isEnded hm] at h
        simp only [report?, Move.rest, hphase, Option.some.injEq] at h
        subst h
        exact .inl ⟨hstate, terminalState_ofProblem p⟩

theorem closeEnd?_append (xs ys : List Stimulus) :
    s.closeEnd? (xs ++ ys) = (s.closeEnd? xs).or ((s.play xs).session.closeEnd? ys) := by
  induction xs generalizing s with
  | nil => rfl
  | cons x xs ih => simp [closeEnd?, play, ih, Option.or_assoc]

theorem closeEnd?_of_live (hs : s.Coherent) (h : (s.play xs).session.isEnded = false) :
    s.closeEnd? xs = none := by
  induction xs generalizing s with
  | nil => rfl
  | cons x xs ih =>
    rw [closeEnd?, ih (coherent_move hs x) h, Option.or_none]
    split_ifs with hclosing
    · cases hx : x.closeEnd? with
      | none => rfl
      | some e =>
        obtain rfl := closeEnd?_eq_some.mp hx
        cases hp : s.phase with
        | closing o c =>
          rw [play, (Turn.settled e hp rfl).move_eq hs, play_of_isEnded rfl] at h
          cases h
        | _ => simp [hp, Phase.isClosing] at hclosing
    · rfl

end Closing

section Verdicts

variable {_ : Json.Wording} {l : Limits} (a : Address) (token : String)

theorem isPeerClose_of_decision? {f : Frame} {o : Outcome} {c : Bool}
    (h : f.decision? = some (o, c)) :
    (Stimulus.signal (.received f)).isPeerClose = c := by
  cases f with
  | text t =>
    simp only [Frame.decision?] at h
    split at h <;> simp_all [Stimulus.isPeerClose]
  | malformed why =>
    simp only [Frame.decision?, Option.some.injEq, Prod.mk.injEq] at h
    exact h.2
  | close code reason =>
    simp only [Frame.decision?, Option.some.injEq, Prod.mk.injEq] at h
    exact h.2

theorem isPeerClose_of_passing {f : Frame} (h : f.decision? = none) :
    (Stimulus.signal (.received f)).isPeerClose = false := by
  cases f with
  | close => cases h
  | _ => rfl

/-- A run that is closing knows whether the peer has closed. -/
theorem peerCloses_of_closing {xs : List Stimulus} {o : Outcome} {c : Bool}
    (hp : ((create a token l).play xs).session.phase = .closing o c) :
    (create a token l).peerCloses xs = c := by
  obtain ⟨st, hst, hplay⟩ := exists_story a token xs (l := l)
  rw [hplay] at hp
  rw [peerCloses, hst]
  cases st with
  | streaming p => cases p <;> cases hp
  | ended => cases hp
  | closing fs f =>
    obtain ⟨rfl, rfl⟩ : f.outcome = o ∧ f.peerClosed = c := by simpa [Story.session] using hp
    have hpassing : fs.stimuli.any Stimulus.isPeerClose = false := by
      rw [PassingFrames.stimuli, List.any_map, List.any_eq_false]
      intro g hg
      simpa using isPeerClose_of_passing (fs.2 g hg)
    have hfirst : [.begin, .signal .connected, .signal .sent].any Stimulus.isPeerClose = false := rfl
    rw [Story.stimuli, Progress.stimuli, List.any_append, List.any_append, hfirst, hpassing]
    simpa using isPeerClose_of_decision? f.decides

theorem report_of_run_closing {ys zs : List Stimulus} {r : Report} {o : Outcome} {c : Bool}
    (hp : ((create a token l).play ys).session.phase = .closing o c)
    (h : ((create a token l).play (ys ++ zs)).session.report? = some r) :
    (create a token l).peerCloses (ys ++ zs) = c ∧
      ∃ e, (create a token l).closeEnd? (ys ++ zs) = some e ∧
        r = ⟨e.state o c, o, ((create a token l).play ys).session.logs ++ closeNote l c e⟩ := by
  have hs := coherent_create a token l
  have hlive : ((create a token l).play ys).session.isEnded = false := by simp [isEnded, hp]
  have hpeer := peerCloses_of_closing a token hp
  rw [play_append] at h
  obtain ⟨hrest, e, he, hr⟩ := report_of_closing (coherent_play hs ys) hp h
  rw [limits_play hs] at hr
  refine ⟨?_, e, ?_, hr⟩
  · rw [peerCloses] at hpeer hrest ⊢
    rw [heeded_append, List.any_append, hpeer, hrest, Bool.or_false]
  · rw [closeEnd?_append, closeEnd?_of_live hs hlive, he]
    rfl

/-- How a run that has ended without more to come is reported. -/
theorem report_of_run_ended {s : Session} {ys zs : List Stimulus} {r : Report}
    (he : (s.play ys).session.isEnded = true)
    (h : (s.play (ys ++ zs)).session.report? = some r) :
    (s.play ys).session.phase = .ended r.outcome ∧ r.logs = (s.play ys).session.logs := by
  rw [play_append_of_isEnded he] at h
  unfold report? at h
  split at h
  · next o hp =>
    obtain rfl := Option.some.inj h
    exact ⟨hp, rfl⟩
  · cases h

theorem terminalState_eq_closed {o : Outcome} : o.terminalState = .closed ↔
    o ∈ [.completed, .failed, .closedByServer, .protocolError] := by
  cases o <;> simp [Outcome.terminalState]

theorem CloseEnd.state_eq_closed (e : CloseEnd) (o : Outcome) (c : Bool) :
    e.state o c = .closed ↔
      o.terminalState = .closed ∧ e ≠ .cutShort ∧ (c = true ∨ e = .acknowledged) := by
  cases e <;> cases c <;> simp [state]

theorem CloseEnd.state_eq_or (e : CloseEnd) (o : Outcome) (c : Bool) :
    e.state o c = o.terminalState ∨ e.state o c = .failed := by
  cases e <;> cases c <;> simp [state]

theorem terminalState_eq_or (o : Outcome) : o.terminalState = .closed ∨ o.terminalState = .failed := by
  cases o <;> simp [Outcome.terminalState]

/-- The outcome of a run that has ended is the one that it had when its streaming phase ended, and
closing can only demote its state. What closing tells is how it ended. -/
theorem verdict_of_ended_run {xs : List Stimulus} {r : Report}
    (h : ((create a token l).play xs).session.report? = some r) :
    let s := create a token l
    (∀ ys zs, xs = ys ++ zs → (s.play ys).session.phase.isStreaming = true ∨
      (s.play ys).session.phase = .ended r.outcome ∨
      ∃ c, (s.play ys).session.phase = .closing r.outcome c) ∧
    (r.state = r.outcome.terminalState ∨ r.outcome.terminalState = .closed ∧ r.state = .failed) ∧
    (r.state = .closed ↔ r.outcome ∈ [.completed, .failed, .closedByServer, .protocolError] ∧
      s.closeEnd? xs ≠ some .cutShort ∧
      (s.peerCloses xs = true ∨ s.closeEnd? xs = some .acknowledged)) ∧
    (r.state = .closed ∨ r.state = .failed) ∧
    ∀ ys zs, xs = ys ++ zs →
      ((s.play ys).session.isEnded = true → r.logs = (s.play ys).session.logs) ∧
      ((s.play ys).session.phase.isClosing = true → ∃ e, s.closeEnd? xs = some e ∧
        r.logs = (s.play ys).session.logs ++ closeNote l (s.peerCloses xs) e) := by
  intro s
  have hcases := failed_or_closing (coherent_create a token l) rfl h
  have hended (ys zs : List Stimulus) (hys : xs = ys ++ zs)
      (he : (s.play ys).session.isEnded = true) :
      (s.play ys).session.phase = .ended r.outcome ∧ r.logs = (s.play ys).session.logs := by
    subst hys
    exact report_of_run_ended he h
  have hclosing (ys zs : List Stimulus) (hys : xs = ys ++ zs) (o : Outcome) (c : Bool)
      (hp : (s.play ys).session.phase = .closing o c) :
      s.peerCloses xs = c ∧ ∃ e, s.closeEnd? xs = some e ∧
        r = ⟨e.state o c, o, (s.play ys).session.logs ++ closeNote l c e⟩ := by
    subst hys
    exact report_of_run_closing a token hp h
  refine ⟨?_, ?_, ?_, ?_, ?_⟩
  · intro ys zs hys
    cases hp : (s.play ys).session.phase with
    | closing o c =>
      obtain ⟨-, e, -, hr⟩ := hclosing ys zs hys o c hp
      exact .inr (.inr ⟨c, by rw [hr]⟩)
    | ended | lost =>
      have hphase := (hended ys zs hys (by simp [isEnded, hp])).1
      exact .inr (.inl (hp ▸ hphase))
    | _ => exact .inl rfl
  · obtain ⟨hstate, hterminal⟩ | ⟨ys, zs, o, c, hys, hp⟩ := hcases
    · exact .inl (hstate.trans hterminal.symm)
    · obtain ⟨-, e, -, rfl⟩ := hclosing ys zs hys o c hp
      obtain hsame | hfailed := e.state_eq_or o c
      · exact .inl hsame
      · exact (terminalState_eq_or o).elim (fun hc => .inr ⟨hc, hfailed⟩)
          fun hf => .inl (hfailed.trans hf.symm)
  · rw [← terminalState_eq_closed]
    obtain ⟨hstate, hterminal⟩ | ⟨ys, zs, o, c, hys, hp⟩ := hcases
    · simp [hstate, hterminal]
    · obtain ⟨hpeer, e, he, rfl⟩ := hclosing ys zs hys o c hp
      rw [hpeer, he, e.state_eq_closed]
      simp
  · obtain ⟨hstate, -⟩ | ⟨ys, zs, o, c, hys, hp⟩ := hcases
    · exact .inr hstate
    · obtain ⟨-, e, -, rfl⟩ := hclosing ys zs hys o c hp
      obtain hsame | hfailed := e.state_eq_or o c
      · exact hsame ▸ terminalState_eq_or o
      · exact .inr hfailed
  · intro ys zs hys
    refine ⟨fun he => (hended ys zs hys he).2, fun hc => ?_⟩
    cases hp : (s.play ys).session.phase with
    | closing o c =>
      obtain ⟨hpeer, e, he, hr⟩ := hclosing ys zs hys o c hp
      exact ⟨e, he, by rw [hr, hpeer]⟩
    | _ => simp [hp, Phase.isClosing] at hc

end Verdicts

/-- The run has completed when nobody answers its close, which spoils its state. -/
theorem verdict_of_ended_run_unansweredClose :
    let s := create localAddress "secret" {}
    s.closeEnd? unansweredClose = some .timedOut ∧ s.peerCloses unansweredClose = false ∧
      ∃ r, (s.play unansweredClose).session.report? = some r ∧ r.outcome = .completed ∧
        r.state = .failed := by
  intro s
  have hend : s.closeEnd? unansweredClose = some .timedOut := by decide
  have hpeer : s.peerCloses unansweredClose = false := by decide
  have hr : (s.play unansweredClose).session.report?.map (·.outcome) = some .completed := by decide
  obtain ⟨r, h, houtcome⟩ := Option.map_eq_some_iff.mp hr
  obtain ⟨-, -, hclosed, hstate, -⟩ := verdict_of_ended_run localAddress "secret" h
  refine ⟨hend, hpeer, r, h, houtcome, hstate.resolve_left fun hc => ?_⟩
  obtain ⟨-, -, hown⟩ := hclosed.mp hc
  rw [hpeer, hend] at hown
  simp at hown

end Testbed.Session
