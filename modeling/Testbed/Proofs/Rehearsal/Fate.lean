import Mathlib.Order.Nat
import Testbed.Proofs.Session.Turn
import Testbed.Rehearsal

/-!
# The fate of a script

What a scripted connection brings about when nothing interrupts its run: the time at which the
streaming phase ends, the outcome, and whether a connection is left to be closed. The records of a
run tell when that phase ended and when the run was released.
-/

namespace Testbed

variable {_ : Json.Wording}

namespace Session

def Signal.isReply : Signal → Bool
  | .closeTimedOut | .deadline | .abort => false
  | _ => true

/-- How a reply ends the streaming phase: the outcome, and whether a connection is left. -/
def Signal.ending? [Json.Wording] : Signal → Option (Outcome × Bool)
  | .connectFailed p | .sendFailed p | .receiveFailed p => some (.ofProblem p, false)
  | .streamEnded => some (.transportError, false)
  | .received f => f.decision?.map fun d => (d.1, true)
  | _ => none

/-- The streaming phase ends when the session begins to close or comes to rest. -/
def Effect.endsStreaming : Effect → Bool
  | .event (.state .closing) | .event (.state .closed) | .event (.state .failed) => true
  | _ => false

theorem fault?_of_isStreaming (l : Limits) {ph : Phase} (hp : ph.isStreaming = true) :
    fault? l ph .deadline = some (runTimeout l) ∧ fault? l ph .abort = some .cancelled := by
  cases ph <;> simp_all [fault?, Phase.isStreaming]

theorem ending?_of_fault? {l : Limits} {ph : Phase} {x : Signal} {p : Problem}
    (h : fault? l ph x = some p) (hx : x.isReply = true) :
    x.ending? = some (.ofProblem p, false) := by
  cases x with
  | deadline | abort => cases hx
  | connectFailed | sendFailed | receiveFailed =>
    cases ph <;> simp [fault?] at h
    rw [h]
    rfl
  | streamEnded =>
    cases ph <;> simp [fault?] at h
    rw [← h]
    rfl
  | _ => cases ph <;> simp [fault?] at h

theorem fault_or_deciding (l : Limits) {ph : Phase} {x : Signal} {o : Outcome} {connected : Bool}
    (hp : ph.isStreaming = true) (hh : ph.heeds (.signal x) = true) (hr : x.isReply = true)
    (hx : x.ending? = some (o, connected)) :
    (connected = false ∧ ∃ p, fault? l ph x = some p ∧ o = .ofProblem p) ∨
      (connected = true ∧ ph = .receiving ∧
        ∃ f c, x = .received f ∧ f.decision? = some (o, c)) := by
  obtain ⟨-, rfl⟩ | ⟨-, rfl⟩ | ⟨hp', f, rfl⟩ | ⟨p, hp'⟩ | ⟨o, c, e, rfl, rfl⟩ := heeds_signal l hh
  · cases hx
  · cases hx
  · obtain ⟨⟨o', c⟩, hf, hd⟩ := Option.map_eq_some_iff.mp hx
    obtain ⟨rfl, rfl⟩ := Prod.mk.inj hd
    exact .inr ⟨rfl, hp', f, c, rfl, hf⟩
  · rw [ending?_of_fault? hp' hr] at hx
    obtain ⟨rfl, rfl⟩ := Prod.mk.inj (Option.some.inj hx)
    exact .inl ⟨rfl, p, hp', rfl⟩
  · cases hp

end Session

namespace Rehearsal

open Session (Effect Outcome Signal)

def Act.delay? (a : Act) : Option ℕ := a.result.map fun _ => a.after

def Cue.reply (c : Cue) : Option (ℕ × Signal) := some (c.after, c.delivery.signal)

/-- The replies to connecting, to handing over the credential and to each request to receive, with
the time that each one takes. -/
def Connection.replies (k : Connection) : List (Option (ℕ × Signal)) :=
  k.connect.signal? 0 .connected .connectFailed :: k.send.signal? 0 .sent .sendFailed ::
    k.cues.map Cue.reply

structure Fate where
  time : ℕ
  outcome : Outcome
  connected : Bool

/-- The first of the replies that ends the streaming phase, if each is asked for when the one before
it has come; after a call without a reply nothing comes. -/
def fate? [Json.Wording] : ℕ → List (Option (ℕ × Signal)) → Option Fate
  | _, [] | _, none :: _ => none
  | now, some (after, x) :: rs =>
    match x.ending? with
    | some (o, connected) => some ⟨now + after, o, connected⟩
    | none => fate? (now + after) rs

def decidedAt? (es : List Record) : Option ℕ :=
  (es.find? (·.effect.endsStreaming)).map Record.time

def releases (es : List Record) : List ℕ :=
  (es.filter (·.effect = .event .released)).map Record.time

section Fates

variable (now : ℕ) (rs : List (Option (ℕ × Signal)))

theorem fate?_zero_cons (reply : Option (ℕ × Signal)) :
    fate? 0 (reply.map (fun a => (now + a.1, a.2)) :: rs) = fate? now (reply :: rs) := by
  cases reply with
  | none => rfl
  | some a => simp [fate?]

theorem fate?_add (s : ℕ) :
    fate? (s + now) rs = (fate? now rs).map fun f => ⟨s + f.time, f.outcome, f.connected⟩ := by
  induction rs generalizing now with
  | nil => rfl
  | cons reply rs ih =>
    cases reply with
    | none => rfl
    | some a =>
      simp only [fate?]
      cases a.2.ending? with
      | none => simpa [Nat.add_assoc] using ih (now + a.1)
      | some e => simp [Nat.add_assoc]

/-- No fate is decided before the first reply. -/
theorem le_time_of_fate? {after : ℕ} {x : Signal} {f : Fate}
    (h : fate? now (some (after, x) :: rs) = some f) : now + after ≤ f.time := by
  induction rs generalizing now after x with
  | nil =>
    simp only [fate?] at h
    cases hx : x.ending? <;> simp only [hx, Option.some.injEq, reduceCtorEq] at h
    subst h
    exact le_rfl
  | cons reply rs ih =>
    rw [fate?] at h
    cases hx : x.ending? with
    | some e =>
      simp only [hx, Option.some.injEq] at h
      subst h
      exact le_rfl
    | none =>
      simp only [hx] at h
      cases reply with
      | none => cases h
      | some a => exact Nat.le_trans (Nat.le_add_right _ _) (ih _ h)

theorem signal?_eq (a : Act) (ok : Signal) (failed : Problem → Signal) :
    a.signal? now ok failed = (a.signal? 0 ok failed).map fun r => (now + r.1, r.2) := by
  unfold Act.signal?
  split <;> simp

theorem signal?_eq_some {a : Act} {ok : Signal} {failed : Problem → Signal} {t : ℕ} {x : Signal}
    (h : a.signal? now ok failed = some (t, x)) :
    (∃ d, a.delay? = some d ∧ t = now + d) ∧ (x = ok ∨ ∃ p, x = failed p) := by
  unfold Act.signal? at h
  split at h <;> simp_all [Act.delay?, eq_comm]

theorem signal?_of_delay? {a : Act} {d : ℕ} (h : a.delay? = some d) (ok : Signal)
    (failed : Problem → Signal) : ∃ x, a.signal? now ok failed = some (now + d, x) := by
  unfold Act.delay? at h
  unfold Act.signal?
  split <;> simp_all

end Fates

section Records

variable (es es' : List Record)

theorem decidedAt?_append : decidedAt? (es ++ es') = (decidedAt? es).or (decidedAt? es') := by
  simp only [decidedAt?, List.find?_append]
  cases es.find? (·.effect.endsStreaming) <;> rfl

@[simp] theorem releases_append : releases (es ++ es') = releases es ++ releases es' := by
  simp [releases]

theorem decidedAt?_recordsAt (now : ℕ) (effects : List Effect) :
    decidedAt? (recordsAt now effects) =
      if effects.any Effect.endsStreaming then some now else none := by
  induction effects with
  | nil => rfl
  | cons e effects ih =>
    simp only [decidedAt?, recordsAt, List.map_cons, List.find?_cons] at ih ⊢
    cases he : e.endsStreaming with
    | true => simp [he]
    | false => simpa [he] using ih

theorem releases_recordsAt (now : ℕ) (effects : List Effect) :
    releases (recordsAt now effects) =
      (effects.filter (· = .event .released)).map fun _ => now := by
  simp [releases, recordsAt, List.filter_map, Function.comp_def]

variable {es}

theorem exists_record_of_decidedAt? {t : ℕ} (h : decidedAt? es = some t) :
    ∃ r ∈ es, r.time = t := by
  obtain ⟨r, hr, rfl⟩ := Option.map_eq_some_iff.mp h
  exact ⟨r, List.mem_of_find?_eq_some hr, rfl⟩

theorem exists_record_of_mem_releases {t : ℕ} (h : t ∈ releases es) : ∃ r ∈ es, r.time = t := by
  obtain ⟨r, hr, rfl⟩ := List.mem_map.mp h
  exact ⟨r, (List.mem_filter.mp hr).1, rfl⟩

end Records

end Rehearsal

end Testbed
