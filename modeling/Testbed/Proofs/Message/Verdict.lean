import Testbed.Proofs.Message.Recased
import Testbed.Proofs.Message.Received

/-!
# The verdict on a message

An error among the entries of a message decides before its status does, and a status decides if it
names an ending in any letter case. So the verdict stays when a status is written in other letters,
when the entries are put into another order, and when entries come or go that are no errors; one
error among the entries, wherever it stands, fails the run.
-/

namespace Testbed

open Log (Entry)
open Text (SameLetters)

namespace Ending

def name : Ending → String
  | .completed => "COMPLETED"
  | .failed => "FAILED"

def word : Ending → String
  | .completed => "completed"
  | .failed => "failed"

variable {s t : String} {e : Ending}

theorem ofStatus?_eq_some_iff : ofStatus? s = some e ↔ SameLetters s e.name := by
  have hcapitals : Text.asciiUpper e.name = e.name := by
    cases e <;> decide
  rw [Text.sameLetters_iff_of_capitals hcapitals]
  simp only [ofStatus?]
  constructor
  · intro h
    split_ifs at h with hcompleted hfailed
    · cases h
      exact hcompleted
    · cases h
      exact hfailed
  · intro h
    cases e with
    | completed => exact if_pos h
    | failed =>
      have hfailed : Text.asciiUpper s = "FAILED" := h
      rw [hfailed, if_neg (by decide), if_pos rfl]

theorem ofStatus?_congr (h : SameLetters s t) : ofStatus? s = ofStatus? t := by
  unfold ofStatus?
  rw [Text.sameLetters_iff_asciiUpper_eq.mp h]

theorem bind_ofStatus?_congr {o o' : Option String} (h : Option.Rel SameLetters o o') :
    o.bind ofStatus? = o'.bind ofStatus? := by
  cases h with
  | none => rfl
  | some h =>
    rw [Option.bind_some, Option.bind_some]
    exact ofStatus?_congr h

/-- Every spelling of an ending has the same small letters. -/
theorem lower_eq_word (h : SameLetters s e.name) : Text.lower s = e.word := by
  have hascii : Text.IsAscii e.name := by
    cases e <;> simp [Text.IsAscii, name]
  rw [h.lower_eq hascii]
  cases e <;> rfl

end Ending

namespace Reading

/-- What is to be read of a message: its entries as they are, then one entry for a status that ends
the run, and the verdict. -/
inductive IsReadingOf (m : Message) : Reading → Prop where
  | failedByLog {e : Entry} (he : e ∈ m.logs) (herror : e.isError = true) :
    IsReadingOf m ⟨m.logs, .failedByLog⟩
  | ended (hlogs : ∀ e ∈ m.logs, e.isError = false) {s : String} (hs : m.status = some s)
    {e : Ending} (he : SameLetters s e.name) :
    IsReadingOf m ⟨m.logs ++ [⟨.now, "Execution " ++ e.word, .other s⟩], .ended e⟩
  | goOn (hlogs : ∀ e ∈ m.logs, e.isError = false)
    (hs : ∀ s, m.status = some s → ∀ e : Ending, ¬SameLetters s e.name) :
    IsReadingOf m ⟨m.logs, .goOn⟩

section Messages

variable {m m' : Message} {r : Reading} {es before added after : List Entry} {e : Entry}

theorem summary_eq {s : String} {e : Ending} (h : SameLetters s e.name) :
    summary s = ⟨.now, "Execution " ++ e.word, .other s⟩ := by
  rw [summary, Ending.lower_eq_word h]
  rfl

theorem any_isError_eq_false (h : ∀ e ∈ es, e.isError = false) : es.any Entry.isError = false := by
  rw [List.any_eq_false]
  intro e he
  simp [h e he]

theorem IsReadingOf.eq (h : IsReadingOf m r) : ofMessage m = r := by
  unfold ofMessage
  cases h with
  | failedByLog he herror => rw [if_pos (List.any_eq_true.mpr ⟨_, he, herror⟩)]
  | ended hlogs hs he =>
    rw [any_isError_eq_false hlogs, hs, ← summary_eq he]
    simp [Ending.ofStatus?_eq_some_iff.mpr he]
  | goOn hlogs hs =>
    rw [any_isError_eq_false hlogs]
    cases hm : m.status with
    | none => rfl
    | some s =>
      have hnone : Ending.ofStatus? s = none := by
        rw [Option.eq_none_iff_forall_ne_some]
        intro e he
        exact hs s hm e (Ending.ofStatus?_eq_some_iff.mp he)
      simp [hnone]

theorem exists_isReadingOf (m : Message) : ∃ r, IsReadingOf m r := by
  by_cases hlogs : ∃ e ∈ m.logs, e.isError = true
  · obtain ⟨e, he, herror⟩ := hlogs
    exact ⟨_, .failedByLog he herror⟩
  have hlogs : ∀ e ∈ m.logs, e.isError = false := by simpa using hlogs
  by_cases hs : ∃ s, m.status = some s ∧ ∃ e : Ending, SameLetters s e.name
  · obtain ⟨s, hs, e, he⟩ := hs
    exact ⟨_, .ended hlogs hs he⟩
  · exact ⟨_, .goOn hlogs fun s hm e he => hs ⟨s, hm, e, he⟩⟩

theorem ofMessage_eq_iff : ofMessage m = r ↔ IsReadingOf m r := by
  constructor
  · rintro rfl
    obtain ⟨r, hr⟩ := exists_isReadingOf m
    rwa [hr.eq]
  · exact IsReadingOf.eq

theorem verdict_ofMessage (m : Message) : (ofMessage m).verdict =
    if m.logs.any Entry.isError then .failedByLog
    else (m.status.bind Ending.ofStatus?).elim Verdict.goOn Verdict.ended := by
  unfold ofMessage
  split_ifs
  · rfl
  cases m.status with
  | none => rfl
  | some s =>
    rw [Option.bind_some]
    cases he : Ending.ofStatus? s <;> simp [he]

theorem any_isError_congr {es es' : List Entry} (h : List.Forall₂ Entry.SameKind es es') :
    es.any Entry.isError = es'.any Entry.isError := by
  induction h with
  | nil => rfl
  | cons h _ ih => rw [List.any_cons, List.any_cons, ih, h]

theorem verdict_eq_of_sameKind (h : m.SameKind m') :
    (ofMessage m).verdict = (ofMessage m').verdict := by
  rw [verdict_ofMessage, verdict_ofMessage, any_isError_congr h.logs,
    Ending.bind_ofStatus?_congr h.status]

theorem verdict_eq_of_any (h : es.any Entry.isError = m.logs.any Entry.isError) :
    (ofMessage { m with logs := es }).verdict = (ofMessage m).verdict := by
  rw [verdict_ofMessage, verdict_ofMessage, h]

/-- The order of the entries does not matter. -/
theorem verdict_of_perm (h : es.Perm m.logs) :
    (ofMessage { m with logs := es }).verdict = (ofMessage m).verdict := by
  apply verdict_eq_of_any
  rw [Bool.eq_iff_iff, List.any_eq_true, List.any_eq_true]
  simp only [h.mem_iff]

/-- Entries that are no errors do not matter. -/
theorem verdict_of_added (hadded : ∀ e ∈ added, e.isError = false) :
    (ofMessage { m with logs := before ++ added ++ after }).verdict =
      (ofMessage { m with logs := before ++ after }).verdict := by
  apply verdict_eq_of_any (m := { m with logs := before ++ after })
  rw [List.any_append, List.any_append, List.any_append, any_isError_eq_false hadded,
    Bool.or_false]

/-- One error is enough, wherever it stands. -/
theorem verdict_of_error (he : e.isError = true) :
    (ofMessage { m with logs := before ++ e :: after }).verdict = .failedByLog := by
  have hmem : e ∈ before ++ e :: after := by simp
  rw [ofMessage_eq_iff.mpr (.failedByLog hmem he)]

end Messages

/-- The same verdict, or the same fault in both texts, told in each of them. -/
def SameVerdict [Json.Wording] (s s' : String) : Prop :=
  (ofText s).verdict = (ofText s').verdict ∨ ∃ f : Json.Fault,
    (ofText s).verdict = .malformed (f.told "ExecutionResponse" s) ∧
      (ofText s').verdict = .malformed (f.told "ExecutionResponse" s')

/-- Texts whose trees differ in the letter case of statuses only get the same verdict. -/
theorem verdict_of_recased [Json.Wording] {s s' : String} {j j' : Json} {clean : Bool}
    (hs : Json.ofText s = (j, clean)) (hs' : Json.ofText s' = (j', clean))
    (h : Message.Recased j j') : SameVerdict s s' := by
  have hread := Json.alike_readText hs hs' (Message.alike_ofJson h)
  unfold SameVerdict ofText
  generalize Json.readText Message.ofJson s = x at hread ⊢
  generalize Json.readText Message.ofJson s' = y at hread ⊢
  cases hread with
  | error f => exact .inr ⟨f, rfl, rfl⟩
  | ok hm =>
    cases hm with
    | none => exact .inl rfl
    | some h => exact .inl (verdict_eq_of_sameKind h)

/-- Only the words for a fault can tell the verdicts of two such texts apart. -/
theorem SameVerdict.eq [Json.Wording] {s s' : String} (h : SameVerdict s s')
    (htold : ∀ f : Json.Fault, f.told "ExecutionResponse" s = f.told "ExecutionResponse" s') :
    (ofText s).verdict = (ofText s').verdict := by
  obtain h | ⟨f, hs, hs'⟩ := h
  · exact h
  · rw [hs, hs', htold]

/-- An error among the entries decides, in any letter case, then a status that names an ending, in
any letter case. No status can be written in other letters so that the verdict changes, except for
what is said of a fault that both texts have; no order of the entries matters and no entry that is
not an error. -/
theorem verdict_by_errors_then_status [Json.Wording] :
    (∀ (m : Message) (r : Reading), ofMessage m = r ↔ IsReadingOf m r) ∧
    (∀ s, (Log.Status.ofText s).isError = true ↔ SameLetters s "ERROR") ∧
    (∀ s s' j j' clean, Json.ofText s = (j, clean) → Json.ofText s' = (j', clean) →
      Message.Recased j j' → SameVerdict s s' ∧
        ((∀ f : Json.Fault, f.told "ExecutionResponse" s = f.told "ExecutionResponse" s') →
          (ofText s).verdict = (ofText s').verdict)) ∧
    ∀ m : Message,
      (∀ es, es.Perm m.logs → (ofMessage { m with logs := es }).verdict = (ofMessage m).verdict) ∧
      (∀ before added after, (∀ e ∈ added, e.isError = false) →
        (ofMessage { m with logs := before ++ added ++ after }).verdict =
          (ofMessage { m with logs := before ++ after }).verdict) ∧
      ∀ before e after, e.isError = true →
        (ofMessage { m with logs := before ++ e :: after }).verdict = .failedByLog :=
  ⟨fun _ _ => ofMessage_eq_iff, fun _ => Log.Status.isError_ofText_iff,
    fun _ _ _ _ _ hs hs' h =>
      ⟨verdict_of_recased hs hs' h, (verdict_of_recased hs hs' h).eq⟩,
    fun _ => ⟨fun _ => verdict_of_perm, fun _ _ _ => verdict_of_added,
      fun _ _ _ => verdict_of_error⟩⟩

/-- A run that is completed, with an entry in an array, and the same in other letters. -/
theorem verdict_by_errors_then_status_completed :
    let s := "\x7b\"status\":\"Completed\",\"logs\":[[null,\"a\",\"info\"]]\x7d"
    let s' := "\x7b\"status\":\"COMPLETED\",\"logs\":[[null,\"a\",\"Info\"]]\x7d"
    let entry (status : String) : Json :=
      .array [.null, .string (some "a"), .string (some status)] true
    let tree (status level : String) : Json := .object [(some "status", .string (some status)),
      (some "logs", .array [entry level] true)] true
    let a : Entry := ⟨.given "", "a", .info⟩
    let b : Entry := ⟨.given "", "b", .error⟩
    let c : Entry := ⟨.given "", "c", .success⟩
    let m : Message := ⟨none, none, some "Completed", [a, c]⟩
    Json.ofText s = (tree "Completed" "info", true) ∧
      Json.ofText s' = (tree "COMPLETED" "Info", true) ∧
      Message.Recased (tree "Completed" "info") (tree "COMPLETED" "Info") ∧
      (ofText s).verdict = (ofText s').verdict ∧
      [c, a].Perm m.logs ∧ (ofMessage { m with logs := [c, a] }).verdict = (ofMessage m).verdict ∧
      (∀ e ∈ [c], e.isError = false) ∧ (ofMessage { m with logs := [a] ++ [c] ++ [b] }).verdict =
        (ofMessage { m with logs := [a] ++ [b] }).verdict ∧
      b.isError = true ∧
        (ofMessage { m with logs := [a] ++ b :: [c] }).verdict = .failedByLog := by
  intro s s' entry tree a b c m
  obtain ⟨-, -, hrecased, hmessage⟩ := verdict_by_errors_then_status
  obtain ⟨hperm, hadded, herror⟩ := hmessage m
  have hs : Json.ofText s = (tree "Completed" "info", true) := by
    dsimp only [s, tree, entry]
    rfl
  have hs' : Json.ofText s' = (tree "COMPLETED" "Info", true) := by
    dsimp only [s', tree, entry]
    rfl
  have hstatus {t u : String} (h : SameLetters t u) := Json.RecasedText.text h
  have hentry : Entry.Recased (entry "info") (entry "Info") :=
    .positions (.cons rfl (.cons rfl (.cons (hstatus (by decide)) (.nil _)))) true
  have hlogs := Message.RecasedLogs.entries (.cons hentry .nil) true
  have htree : Message.Recased (tree "Completed" "info") (tree "COMPLETED" "Info") := by
    refine Json.Fieldwise.members ?_ true
    exact .cons ⟨rfl, hstatus (by decide)⟩ (.cons ⟨rfl, hlogs⟩ .nil)
  have hno : ∀ e ∈ [c], e.isError = false := by
    intro e he
    rw [List.mem_singleton.mp he]
    rfl
  have hsame : (ofText s).verdict = (ofText s').verdict :=
    (hrecased s s' _ _ true hs hs' htree).2 fun _ => rfl
  exact ⟨hs, hs', htree, hsame, .swap a c [],
    hperm [c, a] (.swap a c []), hno, hadded [a] [c] [b] hno, rfl, herror [a] b [c] rfl⟩

end Reading

end Testbed
