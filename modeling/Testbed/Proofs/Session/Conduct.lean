import Mathlib.Tactic.SplitIfs
import Testbed.Proofs.Session.Turn

/-!
# The conduct of a session towards its transport

A history interleaves what a run hears with what it does. `Call.Allowed` says which histories a call
may follow: connecting comes first, the credential is sent once, messages are asked for until the
run is decided, only a frame lets the run close, and nothing follows the drop, which comes before
the release. Every turn keeps to it, and so does the loss of a task.
-/

namespace Testbed.Session

variable {_ : Json.Wording}

inductive Moment where
  | heard (x : Stimulus)
  | did (e : Effect)
  deriving Repr, DecidableEq

abbrev History := List Moment

namespace Signal

def breaks : Signal → Bool
  | .connectFailed _ | .sendFailed _ | .receiveFailed _ | .streamEnded | .deadline | .abort => true
  | _ => false

def decides [Json.Wording] : Signal → Bool
  | .received f => f.decision?.isSome
  | _ => false

end Signal

namespace History

variable (H : History)

def Heard (x : Signal) : Prop := .heard (.signal x) ∈ H

def Made (c : Call) : Prop := .did (.call c) ∈ H

def Released : Prop := .did (.event .released) ∈ H

end History

/-- Whether a call may reach the transport of a run that has had a history. -/
def Call.Allowed [Json.Wording] (a : Address) (token : String) (H : History) : Call → Prop
  | .connect a' token' => a' = a ∧ token' = token ∧ ∀ c, ¬H.Made c
  | .send text =>
    text = authText token ∧ H.Heard .connected ∧ ¬H.Made .drop ∧ ∀ text', ¬H.Made (.send text')
  | .receive =>
    H.Heard .sent ∧ ¬H.Made .drop ∧ ∀ x, H.Heard x → x.breaks = false ∧ x.decides = false
  | .close =>
    (∃ x, H.Heard x ∧ x.decides = true) ∧ ¬H.Made .drop ∧ ¬H.Made .close ∧
      ∀ x, H.Heard x → x.breaks = false
  | .drop => H.Heard .connected ∧ ¬H.Made .drop ∧ ¬H.Released

def Orderly [Json.Wording] (a : Address) (token : String) (H ms : History) : Prop :=
  ∀ before c after, ms = before ++ .did (.call c) :: after → c.Allowed a token (H ++ before)

section Orders

variable {a : Address} {token : String} {H : History}

theorem orderly_of_no_call {ms : History} (h : ∀ c, .did (.call c) ∉ ms) :
    Orderly a token H ms := by
  rintro before c after rfl
  exact absurd (by simp) (h c)

theorem orderly_cons {m : Moment} {ms : History} :
    Orderly a token H (m :: ms) ↔
      (∀ c, m = .did (.call c) → c.Allowed a token H) ∧ Orderly a token (H ++ [m]) ms := by
  constructor
  · intro h
    refine ⟨?_, ?_⟩
    · rintro c rfl
      simpa using h [] c ms rfl
    · rintro before c after rfl
      simpa using h (m :: before) c after rfl
  · rintro ⟨hm, hms⟩ before c after he
    cases before with
    | nil =>
      obtain ⟨rfl, rfl⟩ := List.cons.inj he
      simpa using hm c rfl
    | cons m' before =>
      obtain ⟨rfl, rfl⟩ := List.cons.inj he
      simpa using hms before c after rfl

theorem orderly_append {ms ms' : History} :
    Orderly a token H (ms ++ ms') ↔ Orderly a token H ms ∧ Orderly a token (H ++ ms) ms' := by
  induction ms generalizing H with
  | nil =>
    have hnil : Orderly a token H [] := orderly_of_no_call (by simp)
    simp [hnil]
  | cons m ms ih => simp [orderly_cons, ih, and_assoc]

/-- A turn that makes one call is orderly if this call is allowed. -/
theorem orderly_turn {x : Stimulus} (es es' : List Effect) {c : Call} (hes : ∀ c', .call c' ∉ es)
    (hes' : ∀ c', .call c' ∉ es') (hc : c.Allowed a token (H ++ .heard x :: es.map .did)) :
    Orderly a token H (.heard x :: (es ++ .call c :: es').map .did) := by
  rw [List.map_append, List.map_cons, orderly_cons, orderly_append, orderly_cons]
  refine ⟨by simp, orderly_of_no_call (by simpa using hes), ?_,
    orderly_of_no_call (by simpa using hes')⟩
  rintro c' hc'
  obtain rfl : c = c' := by simpa using hc'
  simpa using hc

end Orders

structure Knows [Json.Wording] (H : History) (p : Phase) : Prop where
  opened : H.Heard .connected ↔ p.holdsTransport = true ∨ H.Made .drop
  dropped : H.Made .drop → p.isStreaming = false ∧ p.isClosing = false
  released : H.Released → p.isStreaming = false ∧ p.isClosing = false
  undecided : p.isStreaming = true → ∀ x, H.Heard x → x.breaks = false ∧ x.decides = false
  unclosed : p.isStreaming = true → ¬H.Made .close
  unsent : p = .idle ∨ p = .connecting → ∀ text, ¬H.Made (.send text)
  unbegun : p = .idle → ∀ c, ¬H.Made c
  sent : p = .receiving → H.Heard .sent

def moments [Json.Wording] (s : Session) (x : Stimulus) : History :=
  (if s.phase.heeds x then [.heard x] else []) ++ (s.move x).effects.map .did

section Growth

variable {H : History} {x : Stimulus} {es : List Effect}

theorem heard_grown {y : Signal} :
    History.Heard (H ++ .heard x :: es.map .did) y ↔ H.Heard y ∨ x = .signal y := by
  simp [History.Heard, eq_comm]

theorem made_grown {c : Call} :
    History.Made (H ++ .heard x :: es.map .did) c ↔ H.Made c ∨ .call c ∈ es := by
  simp [History.Made]

theorem not_made_grown {c : Call} (h : ¬H.Made c) (hes : .call c ∉ es) :
    ¬History.Made (H ++ .heard x :: es.map .did) c := by
  rw [made_grown]
  exact not_or.mpr ⟨h, hes⟩

theorem released_grown :
    History.Released (H ++ .heard x :: es.map .did) ↔ H.Released ∨ .event .released ∈ es := by
  simp [History.Released]

@[simp] theorem call_not_mem_logEffects (c : Call) (xs : List Log.Entry) :
    .call c ∉ logEffects xs := by
  simp [logEffects]

@[simp] theorem released_not_mem_logEffects (xs : List Log.Entry) :
    .event .released ∉ logEffects xs := by
  simp [logEffects]

theorem call_mem_breakEffects {ph : Phase} {y : Signal} {p : Problem} {c : Call} :
    .call c ∈ breakEffects ph y p ↔ ph.holdsTransport = true ∧ c = .drop := by
  unfold breakEffects
  split_ifs <;> simp_all

end Growth

section Turns

variable {s : Session} {H : History} {x : Stimulus} {m : Move}

theorem Turn.moments_eq (h : Turn s x m) (hs : s.Coherent) (hx : s.phase.heeds x = true) :
    s.moments x = .heard x :: m.effects.map .did := by
  simp [moments, hx, h.move_eq hs]

/-- A run that is over knows of its transport only that it has been dropped, if it had one. -/
theorem Knows.over {H' : History} {p p' : Phase} (h : Knows H p)
    (hp' : p'.isStreaming = false ∧ p'.isClosing = false)
    (opened : H'.Heard .connected ↔ H.Heard .connected)
    (dropped : H'.Made .drop ↔ p.holdsTransport = true ∨ H.Made .drop) : Knows H' p' := by
  have hholds : p'.holdsTransport = false := by
    cases p' <;> simp_all [Phase.holdsTransport, Phase.isStreaming, Phase.isClosing]
  refine ⟨?_, fun _ => hp', fun _ => hp', ?_, ?_, ?_, ?_, ?_⟩
  · rw [opened, dropped, h.opened]
    simp [hholds]
  · simp [hp'.1]
  · simp [hp'.1]
  · rintro (rfl | rfl) <;> cases hp'.1
  · rintro rfl
    cases hp'.1
  · rintro rfl
    cases hp'.1

theorem Turn.undecided {y : Signal} (h : Turn s x m) (hx : s.phase.heeds x = true)
    (hH : Knows H s.phase) (hm : m.session.phase.isStreaming = true)
    (hy : H.Heard y ∨ x = .signal y) : y.breaks = false ∧ y.decides = false := by
  have hs : s.phase.isStreaming = true := by
    cases h with
    | ignored h => simp [h] at hx
    | begun hp | connected hp | sent hp | wentOn hp _ => rw [hp]; rfl
    | decided | broken | settled => cases hm
  obtain hy | rfl := hy
  · exact hH.undecided hs y hy
  · cases h with
    | ignored h => simp [h] at hx
    | connected | sent => exact ⟨rfl, rfl⟩
    | wentOn _ hf => exact ⟨rfl, by simp [Signal.decides, hf]⟩
    | decided | broken | settled => cases hm

theorem Turn.knows (h : Turn s x m) (hx : s.phase.heeds x = true) (hH : Knows H s.phase) :
    Knows (H ++ .heard x :: m.effects.map .did) m.session.phase := by
  have hgo := fun hm y => h.undecided (y := y) hx hH hm
  cases h with
  | ignored h => simp [h] at hx
  | begun hp | connected hp | sent hp | wentOn hp hf | decided hp hf =>
    obtain ⟨hopened, hdropped, hreleased, hundecided, hunclosed, hunsent, hunbegun, hsent⟩ := hH
    refine ⟨?_, ?_, ?_, fun hm y hy => hgo hm y (heard_grown.mp hy), ?_, ?_, ?_, ?_⟩ <;>
      simp only [heard_grown, made_grown, released_grown] <;>
      simp_all [Phase.isStreaming, Phase.isClosing, Phase.holdsTransport]
  | @broken y p hp =>
    have hy : y ≠ .connected := by
      rintro rfl
      cases hph : s.phase <;> simp [hph, fault?] at hp
    refine hH.over ⟨rfl, rfl⟩ ?_ ?_
    · rw [heard_grown]
      simp [hy]
    · rw [made_grown]
      simp [call_mem_breakEffects, or_comm]
  | @settled y o c e hp hy =>
    have hy' : y ≠ .connected := by
      rw [hy]
      cases e <;> simp [CloseEnd.signal]
    refine hH.over ⟨rfl, rfl⟩ ?_ ?_
    · rw [heard_grown]
      simp [hy']
    · rw [made_grown]
      simp [hp, Phase.holdsTransport]

theorem Turn.address_eq (h : Turn s x m) : m.session.address = s.address := by
  cases h <;> rfl

theorem Turn.token_eq (h : Turn s x m) : m.session.token = s.token := by
  cases h <;> rfl

theorem Knows.live {p : Phase} (h : Knows H p) (hp : p.isStreaming = true ∨ p.isClosing = true) :
    ¬H.Made .drop ∧ ¬H.Released := by
  constructor
  · intro hdrop
    have := h.dropped hdrop
    simp_all
  · intro hreleased
    have := h.released hreleased
    simp_all

theorem Knows.dropped_of_released {p : Phase} (h : Knows H p) (hreleased : H.Released)
    (hopened : H.Heard .connected) : H.Made .drop := by
  have hover := h.released hreleased
  refine (h.opened.mp hopened).resolve_left fun hholds => ?_
  cases p <;> simp_all [Phase.holdsTransport, Phase.isStreaming, Phase.isClosing]

theorem Knows.allows_drop {p : Phase} (h : Knows H p) (hp : p.holdsTransport = true)
    (a : Address) (token : String) : Call.Allowed a token H .drop := by
  have hlive : p.isStreaming = true ∨ p.isClosing = true := by
    cases p <;> simp_all [Phase.holdsTransport, Phase.isStreaming, Phase.isClosing]
  exact ⟨h.opened.mpr (.inl hp), h.live hlive⟩

/-- A drop may wait for what is logged before it. -/
theorem allowed_drop_grown {a : Address} {token : String} {es : List Effect}
    (h : Call.Allowed a token H .drop) (hes : ∀ c, .call c ∉ es)
    (hreleased : .event .released ∉ es) :
    Call.Allowed a token (H ++ .heard x :: es.map .did) .drop := by
  obtain ⟨hopened, hdrop, hnot⟩ := h
  refine ⟨heard_grown.mpr (.inl hopened), not_made_grown hdrop (hes _), ?_⟩
  rw [released_grown]
  exact not_or.mpr ⟨hnot, hreleased⟩

theorem orderly_breakEffects {a : Address} {token : String} {y : Signal} {p : Problem}
    {ph : Phase} {es : List Effect} (hH : Knows H ph) (hes : ∀ c, .call c ∉ es) :
    Orderly a token H (.heard x :: (breakEffects ph y p ++ es).map .did) := by
  have hlog (c : Call) : .call c ∉ logEffects [.problem p] ++ es := by simp [hes]
  cases hh : ph.holdsTransport with
  | false =>
    have heq : breakEffects ph y p = logEffects [.problem p] := by simp [breakEffects, hh]
    rw [heq]
    exact orderly_of_no_call (by simpa using hes)
  | true =>
    have hdrop := hH.allows_drop hh a token
    cases hy : y.isInterruption with
    | true =>
      have heq : breakEffects ph y p = .call .drop :: logEffects [.problem p] := by
        simp [breakEffects, hh, hy]
      rw [heq]
      exact orderly_turn [] _ (by simp) hlog (allowed_drop_grown hdrop (by simp) (by simp))
    | false =>
      have heq : breakEffects ph y p = logEffects [.problem p] ++ [.call .drop] := by
        simp [breakEffects, hh, hy]
      rw [heq, List.append_assoc]
      exact orderly_turn _ _ (by simp) hes (allowed_drop_grown hdrop (by simp) (by simp))

/-- The call of a turn is allowed by what the run knows. -/
theorem Turn.orderly (h : Turn s x m) (hx : s.phase.heeds x = true) (hH : Knows H s.phase) :
    Orderly s.address s.token H (.heard x :: m.effects.map .did) := by
  have hgo := fun hm y => h.undecided (y := y) hx hH hm
  cases h with
  | ignored h => simp [h] at hx
  | begun hp =>
    have hcalls := hH.unbegun hp
    exact orderly_turn (.event (.state .connecting) :: logEffects [connectEntry s.address]) []
      (by simp) (by simp)
      ⟨rfl, rfl, fun c => not_made_grown (hcalls c) (by simp)⟩
  | connected hp =>
    have hsend := hH.unsent (.inr hp)
    have hdrop := (hH.live (.inl (by rw [hp]; rfl))).1
    exact orderly_turn [.event (.state .authenticating)] [] (by simp) (by simp)
      ⟨rfl, heard_grown.mpr (.inr rfl), not_made_grown hdrop (by simp),
        fun text => not_made_grown (hsend text) (by simp)⟩
  | sent hp =>
    have hdrop := (hH.live (.inl (by rw [hp]; rfl))).1
    have heq : logEffects [sentEntry] ++ [.event (.state .streaming), .call .receive] =
        (logEffects [sentEntry] ++ [.event (.state .streaming)]) ++ [.call .receive] := rfl
    rw [heq]
    exact orderly_turn _ _ (by simp) (by simp) ⟨heard_grown.mpr (.inr rfl),
      not_made_grown hdrop (by simp), fun y hy => hgo rfl y (heard_grown.mp hy)⟩
  | @wentOn f hp hf =>
    have hdrop := (hH.live (.inl (by rw [hp]; rfl))).1
    have hstreaming : s.phase.isStreaming = true := by rw [hp]; rfl
    exact orderly_turn _ _ (by simp) (by simp) ⟨heard_grown.mpr (.inl (hH.sent hp)),
      not_made_grown hdrop (by simp), fun y hy => hgo hstreaming y (heard_grown.mp hy)⟩
  | @decided f o c hp hf =>
    have hundecided := hH.undecided (by rw [hp]; rfl)
    have hclose := hH.unclosed (by rw [hp]; rfl)
    have hdrop := (hH.live (.inl (by rw [hp]; rfl))).1
    have hbreaks (y : Signal) (hy : H.Heard y ∨ .signal (.received f) = Stimulus.signal y) :
        y.breaks = false := by
      obtain hy | hy := hy
      · exact (hundecided y hy).1
      · cases hy
        rfl
    have heq : logEffects f.entries ++ [.event (.state .closing), .call .close] =
        (logEffects f.entries ++ [.event (.state .closing)]) ++ [.call .close] := by simp
    rw [heq]
    exact orderly_turn _ _ (by simp) (by simp)
      ⟨⟨_, heard_grown.mpr (.inr rfl), by simp [Signal.decides, hf]⟩,
        not_made_grown hdrop (by simp), not_made_grown hclose (by simp),
        fun y hy => hbreaks y (heard_grown.mp hy)⟩
  | broken hp => exact orderly_breakEffects hH (by simp)
  | settled e hp hy =>
    have hdrop := hH.allows_drop (by rw [hp]; rfl) s.address s.token
    exact orderly_turn [] _ (by simp) (by simp) (allowed_drop_grown hdrop (by simp) (by simp))

structure Conducted [Json.Wording] (s : Session) (H : History) : Prop where
  orderly : Orderly s.address s.token [] H
  knows : Knows H s.phase

theorem conducted_create (a : Address) (token : String) (l : Limits) :
    (create a token l).Conducted [] := by
  refine ⟨orderly_of_no_call (by simp), ?_⟩
  constructor <;>
    simp [History.Heard, History.Made, History.Released, create, Phase.holdsTransport]

theorem Conducted.move (h : s.Conducted H) (hs : s.Coherent) (x : Stimulus) :
    (s.move x).session.Conducted (H ++ s.moments x) := by
  have hturn := turn_move hs x
  cases hx : s.phase.heeds x with
  | false =>
    rw [moments, hx, move_of_not_heeds hx]
    simpa [Move.rest] using h
  | true =>
    rw [hturn.moments_eq hs hx]
    refine ⟨?_, hturn.knows hx h.knows⟩
    rw [hturn.address_eq, hturn.token_eq, orderly_append]
    exact ⟨h.orderly, hturn.orderly hx h.knows⟩

theorem address_abandon (s : Session) : s.abandon.session.address = s.address := by
  cases he : s.isEnded with
  | true => rw [abandon_of_isEnded he]; rfl
  | false => rw [abandon_of_live he]

theorem token_abandon (s : Session) : s.abandon.session.token = s.token := by
  cases he : s.isEnded with
  | true => rw [abandon_of_isEnded he]; rfl
  | false => rw [abandon_of_live he]

theorem isEnded_of_holdsTransport (h : s.phase.holdsTransport = true) : s.isEnded = false := by
  cases hp : s.phase <;> simp_all [isEnded, Phase.holdsTransport]

theorem Conducted.abandon (h : s.Conducted H) :
    s.abandon.session.Conducted (H ++ s.abandon.effects.map .did) := by
  cases he : s.isEnded with
  | true =>
    rw [abandon_of_isEnded he]
    simpa [Move.rest] using h
  | false =>
    rw [abandon_of_live he]
    constructor
    · rw [orderly_append]
      refine ⟨h.orderly, ?_⟩
      cases hh : s.phase.holdsTransport with
      | true =>
        have hdrop := h.knows.allows_drop hh s.address s.token
        simpa [orderly_cons, hdrop] using orderly_of_no_call (by simp)
      | false => exact orderly_of_no_call (by simp)
    · refine h.knows.over ⟨rfl, rfl⟩ ?_ ?_
      · simp [History.Heard]
      · cases hh : s.phase.holdsTransport <;> simp [History.Made]

end Turns

end Testbed.Session
