import Testbed.Message
import Testbed.Proofs.Gives
import Testbed.Transport

/-!
# What a message brings

The entries of a message are stamped by its sender and never by the clock of the program. A message
that lets a run go on, or that ends it by its status, adds no error to the log.
-/

namespace Testbed

open Log (Entry)

namespace Json

section Readers

variable {α : Type} {P : α → Prop}

theorem gives_mismatch (w : Wanted) (j : Json) : Gives (mismatch w j) P :=
  gives_after fun _ => gives_error _

theorem gives_foldMembers {f : α → String → Json → Except Fault α} (closed : Bool)
    (hf : ∀ a key j, P a → Gives (f a key j) P) (members : List (Option String × Json)) {a : α}
    (ha : P a) : Gives (foldMembers f closed a members) P := by
  induction members generalizing a with
  | nil => exact gives_after fun _ => gives_pure ha
  | cons member rest ih =>
    rw [foldMembers]
    exact gives_after fun key => gives_bind (hf a key member.2 ha) fun _ hb => ih hb

theorem gives_readText {read : Json → Except Fault α} (h : ∀ j, Gives (read j) P) (s : String) :
    Gives (readText read s) P :=
  gives_bind (h _) fun _ ha => gives_after fun _ => gives_pure ha

end Readers

end Json

namespace Log

open Json

def Status.IsNamed (s : Status) : Prop := ofText s.text = s

theorem Status.isNamed_ofText (s : String) : (ofText s).IsNamed := by
  unfold IsNamed
  by_cases hi : Text.asciiUpper s = "INFO"
  · rw [show ofText s = .info by simp [ofText, hi]]
    decide
  by_cases hd : Text.asciiUpper s = "DEBUG"
  · rw [show ofText s = .debug by simp [ofText, hd]]
    decide
  by_cases hs : Text.asciiUpper s = "SUCCESS"
  · rw [show ofText s = .success by simp [ofText, hs]]
    decide
  by_cases he : Text.asciiUpper s = "ERROR"
  · rw [show ofText s = .error by simp [ofText, he]]
    decide
  have h : ofText s = .other s := by simp [ofText, hi, hd, hs, he]
  rw [h]
  exact h

theorem Status.IsNamed.isError_iff {s : Status} (h : s.IsNamed) :
    s.isError = true ↔ Text.asciiUpper s.text = "ERROR" := by
  constructor
  · intro he
    cases s with
    | error => decide
    | _ => cases he
  · intro he
    rw [← h]
    simp [ofText, he, isError]

namespace Entry

@[simp] theorem isError_info (m : String) : (info m).isError = false := rfl

@[simp] theorem isError_debug (m : String) : (debug m).isError = false := rfl

@[simp] theorem isError_problem (p : Problem) : (problem p).isError = true := rfl

/-- The entry has the stamp of whoever sent it, and a status by its name. -/
structure IsGiven (e : Entry) : Prop where
  stamp_ne : e.stamp ≠ .now
  isNamed : e.status.IsNamed

theorem isGiven_given (t m : String) {st : Status} (h : st.IsNamed) :
    IsGiven ⟨.given t, m, st⟩ := ⟨by simp, h⟩

theorem gives_readStatus (j : Json) : Gives (readStatus j) Status.IsNamed := by
  refine gives_after fun s? => gives_pure ?_
  cases s? with
  | none => rfl
  | some s => exact Status.isNamed_ofText s

theorem gives_readField (f : Fields) (key : String) (j : Json)
    (hf : (f.status.getD .info).IsNamed) :
    Gives (readField f key j) fun f => (f.status.getD .info).IsNamed := by
  unfold readField
  refine gives_ite (gives_ite (gives_error _) (gives_after fun _ => gives_pure hf)) ?_
  refine gives_ite (gives_ite (gives_error _) (gives_after fun _ => gives_pure hf)) ?_
  refine gives_ite (gives_ite (gives_error _) ?_) (gives_after fun _ => gives_pure hf)
  exact gives_bind (gives_readStatus j) fun st hst => gives_pure hst

theorem gives_ofJson (j : Json) : Gives (ofJson j) IsGiven := by
  cases j with
  | object members closed =>
    have hfold := gives_foldMembers closed gives_readField members (a := {}) rfl
    exact gives_bind hfold fun f hf => gives_pure (isGiven_given _ _ hf)
  | array items closed =>
    have hend {x : Except Fault Status} (t m : String) (rest : List Json)
        (hx : Gives x Status.IsNamed) :
        Gives (x >>= fun st => noMoreItems closed rest >>= fun _ => pure ⟨.given t, m, st⟩)
          IsGiven :=
      gives_bind hx fun st hst => gives_after fun _ => gives_pure (isGiven_given t m hst)
    -- an item may be missing, and the rest is read in the same way
    refine gives_after fun ⟨first, items⟩ => ?_
    cases first <;> refine gives_after fun t => gives_after fun ⟨second, items⟩ => ?_
    all_goals cases second <;> refine gives_after fun m => gives_after fun ⟨third, items⟩ => ?_
    all_goals
      cases third with
      | none => exact hend t m items (gives_pure rfl)
      | some j => exact hend t m items (gives_readStatus j)
  | _ => exact gives_mismatch _ _

end Entry

end Log

namespace Message

open Json

def IsGiven (m : Message) : Prop := ∀ e ∈ m.logs, e.IsGiven

theorem gives_readEntries (closed : Bool) (items : List Json) :
    Gives (readEntries closed items) fun es => ∀ e ∈ es, e.IsGiven := by
  induction items with
  | nil => exact gives_after fun _ => gives_pure (by simp)
  | cons j rest ih =>
    refine gives_bind (Entry.gives_ofJson j) fun e he => gives_bind ih fun es hes => gives_pure ?_
    exact List.forall_mem_cons.mpr ⟨he, hes⟩

theorem gives_readLogs (j : Json) : Gives (readLogs j) fun es => ∀ e ∈ es, e.IsGiven := by
  cases j with
  | null => exact gives_pure (by simp)
  | array items closed => exact gives_readEntries closed items
  | _ => exact gives_mismatch _ _

theorem gives_readField (f : Fields) (key : String) (j : Json) (hf : f.message.IsGiven) :
    Gives (readField f key j) fun f => f.message.IsGiven := by
  have hkeep {α : Type} {x : Except Fault α} {g : α → Fields}
      (hg : ∀ a, (g a).message.logs = f.message.logs) :
      Gives (x >>= fun a => pure (g a)) fun f => f.message.IsGiven :=
    gives_after fun a => gives_pure (by rw [IsGiven, hg]; exact hf)
  unfold readField
  refine gives_ite (gives_ite (gives_error _) (hkeep fun _ => rfl)) ?_
  refine gives_ite (gives_ite (gives_error _) (hkeep fun _ => rfl)) ?_
  refine gives_ite (gives_ite (gives_error _) (hkeep fun _ => rfl)) ?_
  refine gives_ite (gives_ite (gives_error _) ?_) (hkeep fun _ => rfl)
  exact gives_bind (gives_readLogs j) fun es hes => gives_pure hes

theorem gives_ofJson (j : Json) : Gives (ofJson j) fun m? => ∀ m, m? = some m → m.IsGiven := by
  have hsome {m : Message} (h : m.IsGiven) : ∀ m', some m = some m' → m'.IsGiven := by
    rintro _ ⟨⟩
    exact h
  cases j with
  | null => exact gives_pure (by simp)
  | object members closed =>
    have hnone : ({} : Fields).message.IsGiven := by simp [IsGiven, Fields.message]
    have hfold := gives_foldMembers closed gives_readField members hnone
    exact gives_bind hfold fun f hf => gives_pure (hsome hf)
  | array items closed =>
    have hend {x : Except Fault (List Entry)} (t ty st : Option String) (rest : List Json)
        (hx : Gives x fun es => ∀ e ∈ es, e.IsGiven) :
        Gives (x >>= fun es => noMoreItems closed rest >>= fun _ => pure (some ⟨t, ty, st, es⟩))
          fun m? => ∀ m, m? = some m → IsGiven m :=
      gives_bind hx fun es hes => gives_after fun _ => gives_pure (hsome hes)
    refine gives_after fun ⟨first, items⟩ => gives_after fun t => ?_
    refine gives_after fun ⟨second, items⟩ => gives_after fun ty => ?_
    refine gives_after fun ⟨third, items⟩ => gives_after fun st => ?_
    refine gives_after fun ⟨fourth, items⟩ => ?_
    cases fourth with
    | none => exact hend t ty st items (gives_pure (by simp))
    | some j => exact hend t ty st items (gives_readLogs j)
  | _ => exact gives_mismatch _ _

end Message

namespace Frame

def message? : Frame → Option Message
  | .text t =>
    match Json.readText Message.ofJson t with
    | .ok m? => m?
    | .error _ => none
  | _ => none

def received (f : Frame) : List Entry := (f.message?.map Message.logs).getD []

theorem isGiven_of_received {f : Frame} {e : Entry} (h : e ∈ f.received) : e.IsGiven := by
  cases f with
  | text t =>
    cases hm : Json.readText Message.ofJson t with
    | error why => simp [received, message?, hm] at h
    | ok m? =>
      have hgiven := Json.gives_readText Message.gives_ofJson t m? hm
      cases m? with
      | none => simp [received, message?, hm] at h
      | some m => exact hgiven m rfl e (by simpa [received, message?, hm] using h)
  | malformed why => cases h
  | close code reason => cases h

end Frame

namespace Reading

/-- How a message is read: by an error among its entries, or by its status. -/
theorem ofMessage_cases (m : Message) :
    m.logs.any Entry.isError = true ∧ ofMessage m = ⟨m.logs, .failedByLog⟩ ∨
      m.logs.any Entry.isError = false ∧ (ofMessage m = ⟨m.logs, .goOn⟩ ∨
        ∃ s e, ofMessage m = ⟨m.logs ++ [summary s], .ended e⟩) := by
  unfold ofMessage
  cases m.logs.any Entry.isError with
  | true => exact .inl ⟨rfl, rfl⟩
  | false =>
    refine .inr ⟨rfl, ?_⟩
    cases m.status with
    | none => exact .inl rfl
    | some s =>
      cases hs : Ending.ofStatus? s with
      | none => exact .inl (by simp [hs])
      | some e => exact .inr ⟨s, e, by simp [hs]⟩

theorem isError_summary (s : String) : (summary s).isError = false := rfl

variable [Json.Wording]

/-- The text of a frame is a message or it is read as one error of the program's own. -/
theorem ofText_cases (t : String) :
    (∃ m, (Frame.text t).message? = some m ∧ ofText t = ofMessage m) ∨
      (Frame.text t).message? = none ∧ (ofText t = empty ∨ ∃ why, ofText t = ofFault why) := by
  unfold ofText
  cases hm : Json.readText Message.ofJson t with
  | error f => exact .inr ⟨by simp [Frame.message?, hm], .inr ⟨_, rfl⟩⟩
  | ok m? =>
    cases m? with
    | none => exact .inr ⟨by simp [Frame.message?, hm], .inl rfl⟩
    | some m => exact .inl ⟨m, by simp [Frame.message?, hm], rfl⟩

/-- An entry that is read is the program's own unless the message brought it. -/
theorem stamp_or_received {t : String} {e : Entry} (h : e ∈ (ofText t).entries) :
    e.stamp = .now ∨ e ∈ (Frame.text t).received := by
  obtain ⟨m, hm, hread⟩ | ⟨-, hread | ⟨why, hread⟩⟩ := ofText_cases t
  · rw [Frame.received, hm]
    rw [hread] at h
    obtain ⟨-, hm⟩ | ⟨-, hm | ⟨s, v, hm⟩⟩ := ofMessage_cases m
    · exact .inr (by simpa [hm] using h)
    · exact .inr (by simpa [hm] using h)
    · rw [hm] at h
      obtain h | h := List.mem_append.mp h
      · exact .inr h
      · exact .inl (by rw [List.mem_singleton.mp h]; rfl)
  · rw [hread] at h
    exact .inl (by rw [List.mem_singleton.mp h]; rfl)
  · rw [hread] at h
    exact .inl (by rw [List.mem_singleton.mp h]; rfl)

/-- What does not fail a run by its log, and is a message at all, is free of errors. -/
theorem no_error_of_verdict {t : String}
    (h : (ofText t).verdict = .goOn ∨ ∃ v, (ofText t).verdict = .ended v) :
    ∀ e ∈ (ofText t).entries, e.isError = false := by
  obtain ⟨m, -, hread⟩ | ⟨-, hread | ⟨why, hread⟩⟩ := ofText_cases t
  · rw [hread] at h ⊢
    obtain ⟨-, hm⟩ | ⟨hno, hm⟩ := ofMessage_cases m
    · simp [hm] at h
    · rw [List.any_eq_false] at hno
      have hlogs : ∀ e ∈ m.logs, e.isError = false := by simpa using hno
      obtain hm | ⟨s, v, hm⟩ := hm
      · rwa [hm]
      · rw [hm]
        exact List.forall_mem_append.mpr ⟨hlogs, by simp [isError_summary]⟩
  · simp [hread, empty] at h
  · simp [hread, ofFault] at h

end Reading

end Testbed
