import Testbed.Proofs.Alike
import Testbed.Proofs.Message.Spelling
import Testbed.Proofs.Text.Letters

/-!
# Messages with their statuses in other letters

Two trees for a message may differ in the letter case of the statuses, that of the run and those of
the entries. They are read alike: with the same fault, or as messages with the same errors among
their entries and with the same letters in the status of the run.
-/

namespace Testbed

open Text (SameLetters)

namespace Json

inductive RecasedText : Json → Json → Prop where
  | text {s t : String} (h : SameLetters s t) : RecasedText (.string (some s)) (.string (some t))
  | same (j : Json) : RecasedText j j

/-- The items that stand where fields of these names are expected, each with its partner. -/
inductive Positions (R : Option String → Json → Json → Prop) :
    List String → List Json → List Json → Prop where
  | nil (names : List String) : Positions R names [] []
  | cons {names : List String} {j j' : Json} {items items' : List Json} (h : R names.head? j j')
    (hrest : Positions R names.tail items items') : Positions R names (j :: items) (j' :: items')

/-- Two records, as objects or as arrays, whose values are related field by field. -/
inductive Fieldwise (names : List String) (R : Option String → Json → Json → Prop) :
    Json → Json → Prop where
  | members {ms ms' : List (Option String × Json)}
    (h : List.Forall₂ (fun m m' => m.1 = m'.1 ∧ R m.1 m.2 m'.2) ms ms') (closed : Bool) :
    Fieldwise names R (.object ms closed) (.object ms' closed)
  | positions {items items' : List Json} (h : Positions R names items items') (closed : Bool) :
    Fieldwise names R (.array items closed) (.array items' closed)
  | same (j : Json) : Fieldwise names R j j

section Readers

variable {α : Type} {R : Option String → Json → Json → Prop} {names : List String}
  {items items' : List Json}

theorem sameLetters_same (o : Option String) : Option.Rel SameLetters o o := by
  cases o with
  | none => exact .none
  | some s => exact .some rfl

theorem alike_optionalString {j j' : Json} (h : RecasedText j j') :
    Alike (Option.Rel SameLetters) (optionalString j) (optionalString j') := by
  cases h with
  | text h => exact .ok (.some h)
  | same j => exact alike_same sameLetters_same _

theorem alike_foldMembers {S : α → α → Prop} {f : α → String → Json → Except Fault α}
    (hf : ∀ {a b key j j'}, S a b → R (some key) j j' → Alike S (f a key j) (f b key j'))
    {ms ms' : List (Option String × Json)}
    (h : List.Forall₂ (fun m m' => m.1 = m'.1 ∧ R m.1 m.2 m'.2) ms ms') (closed : Bool) {a b : α}
    (hab : S a b) : Alike S (foldMembers f closed a ms) (foldMembers f closed b ms') := by
  induction h generalizing a b with
  | nil => exact alike_after fun _ => .ok hab
  | @cons m m' ms ms' hm _ ih =>
    obtain ⟨key, j⟩ := m
    obtain ⟨key', j'⟩ := m'
    obtain ⟨rfl, hj⟩ := hm
    cases key with
    | none => exact .error _
    | some key =>
      rw [foldMembers_cons, foldMembers_cons]
      exact alike_bind (hf hab hj) fun _ _ hab => ih hab

/-- The next item of both, before what comes after it. -/
theorem alike_nextItem {β : Type} {Q : β → β → Prop}
    {k k' : Option Json × List Json → Except Fault β} (h : Positions R names items items')
    (closed : Bool)
    (hk : ∀ x y rest rest', Option.Rel (R names.head?) x y → Positions R names.tail rest rest' →
      Alike Q (k (x, rest)) (k' (y, rest'))) :
    Alike Q (nextItem closed items >>= k) (nextItem closed items' >>= k') := by
  cases h with
  | nil =>
    cases closed with
    | false => exact .error _
    | true => exact hk none none [] [] .none (.nil _)
  | cons h hrest => exact hk _ _ _ _ (.some h) hrest

theorem noMoreItems_eq (h : Positions R names items items') (closed : Bool) :
    noMoreItems closed items = noMoreItems closed items' := by
  cases h <;> rfl

/-- Reading a value that may be left out in both, before what comes after it. -/
theorem alike_match {β γ : Type} {S : β → β → Prop} {Q : γ → γ → Prop} {P : Json → Json → Prop}
    {read : Json → Except Fault β} {d : β} {k k' : β → Except Fault γ}
    (hread : ∀ j j', P j j' → Alike S (read j) (read j')) (hd : S d d)
    (hk : ∀ a b, S a b → Alike Q (k a) (k' b)) {x y : Option Json} : Option.Rel P x y →
    Alike Q
      (match x with
        | none => pure d >>= k
        | some j => read j >>= k)
      (match y with
        | none => pure d >>= k'
        | some j => read j >>= k')
  | .none => hk d d hd
  | .some h => alike_bind (hread _ _ h) hk

theorem alike_readText {S : α → α → Prop} {read : Json → Except Fault α} {s s' : String}
    {j j' : Json} {clean : Bool} (hs : ofText s = (j, clean)) (hs' : ofText s' = (j', clean))
    (h : Alike S (read j) (read j')) : Alike S (readText read s) (readText read s') := by
  rw [readText, readText, hs, hs']
  exact alike_bind h fun _ _ hab => alike_after fun _ => .ok hab

end Readers

end Json

namespace Log

open Json

def Entry.RecasedField (key : Option String) (j j' : Json) : Prop :=
  if key = some "status" then RecasedText j j' else j = j'

def Entry.Recased : Json → Json → Prop := Fieldwise names RecasedField

/-- Only the letters of a status decide whether it is an error. -/
theorem Status.isError_ofText_iff {s : String} :
    (ofText s).isError = true ↔ SameLetters s "ERROR" := by
  rw [Text.sameLetters_iff_of_capitals (by decide)]
  constructor
  · intro h
    simp only [ofText] at h
    split_ifs at h with _ _ _ herror
    · cases h
    · cases h
    · cases h
    · exact herror
    · cases h
  · intro h
    simp [ofText, h, isError]

namespace Entry

theorem RecasedField.eq {key : String} {j j' : Json} (h : RecasedField (some key) j j')
    (hkey : key ≠ "status") : j = j' := by
  simpa [RecasedField, hkey] using h

def SameKind (e e' : Entry) : Prop := e.isError = e'.isError

theorem alike_readStatus {j j' : Json} (h : RecasedText j j') :
    Alike (fun st st' => st.isError = st'.isError) (readStatus j) (readStatus j') := by
  refine alike_bind (alike_optionalString h) fun o o' ho => .ok ?_
  cases ho with
  | none => rfl
  | @some s s' hs =>
    change (Status.ofText s).isError = (Status.ofText s').isError
    rw [Bool.eq_iff_iff, Status.isError_ofText_iff, Status.isError_ofText_iff]
    exact ⟨hs.symm.trans, hs.trans⟩

structure Fields.Recased (f g : Fields) : Prop where
  timestamp : f.timestamp = g.timestamp
  message : f.message = g.message
  status : Option.Rel (fun st st' => st.isError = st'.isError) f.status g.status

theorem Fields.Recased.sameKind {f g : Fields} (h : f.Recased g) : f.entry.SameKind g.entry := by
  obtain ⟨timestamp, message, status⟩ := f
  obtain ⟨_, _, status'⟩ := g
  obtain ⟨-, -, hstatus⟩ := h
  cases hstatus with
  | none => rfl
  | some h => exact h

theorem alike_readField {f g : Fields} {key : String} {j j' : Json} (h : f.Recased g)
    (hj : RecasedField (some key) j j') :
    Alike Fields.Recased (readField f key j) (readField g key j') := by
  obtain ⟨timestamp, message, status⟩ := f
  obtain ⟨_, _, status'⟩ := g
  obtain ⟨rfl, rfl, hstatus⟩ := h
  by_cases hkey : key = "status"
  · subst hkey
    have hread (f : Fields) (j : Json) : readField f "status" j =
        if f.status.isSome then .error (.duplicate "status")
        else readStatus j >>= fun st => pure { f with status := some st } := rfl
    rw [hread, hread]
    cases hstatus with
    | some h => exact .error _
    | none => exact alike_bind (alike_readStatus hj) fun st st' hst => .ok ⟨rfl, rfl, .some hst⟩
  · obtain rfl := hj.eq hkey
    unfold readField
    rw [if_neg hkey, if_neg hkey]
    refine alike_ite (alike_ite (.error _) (alike_after fun _ => .ok ⟨rfl, rfl, hstatus⟩)) ?_
    refine alike_ite (alike_ite (.error _) (alike_after fun _ => .ok ⟨rfl, rfl, hstatus⟩)) ?_
    exact alike_after fun _ => .ok ⟨rfl, rfl, hstatus⟩

theorem alike_ofJson {j j' : Json} (h : Recased j j') : Alike SameKind (ofJson j) (ofJson j') := by
  cases h with
  | same j => exact alike_same (R := SameKind) (fun _ => rfl) _
  | members h closed =>
    have hstart : Fields.Recased {} {} := ⟨rfl, rfl, .none⟩
    exact alike_bind (alike_foldMembers alike_readField h closed hstart) fun f g hfg =>
      .ok hfg.sameKind
  | positions h closed =>
    have htext (key : String) (hkey : key ≠ "status") (j j' : Json)
        (h : RecasedField (some key) j j') : Alike Eq (readText j) (readText j') := by
      obtain rfl := h.eq hkey
      exact alike_same (fun _ => rfl) _
    unfold ofJson
    refine alike_nextItem h closed fun first first' items items' hfirst h => ?_
    refine alike_match (htext "timestamp" (by decide)) rfl (fun t _ ht => ?_) hfirst
    refine alike_nextItem h closed fun second second' items items' hsecond h => ?_
    refine alike_match (htext "message" (by decide)) rfl (fun m _ hm => ?_) hsecond
    refine alike_nextItem h closed fun third third' items items' hthird h => ?_
    have hstatus (j j' : Json) (h : RecasedField (some "status") j j') := alike_readStatus h
    refine alike_match hstatus rfl (fun st st' hst => ?_) hthird
    rw [noMoreItems_eq h closed]
    exact alike_after fun _ => .ok hst

end Entry

end Log

namespace Message

open Json Log

inductive RecasedLogs : Json → Json → Prop where
  | entries {items items' : List Json} (h : List.Forall₂ Entry.Recased items items')
    (closed : Bool) : RecasedLogs (.array items closed) (.array items' closed)
  | same (j : Json) : RecasedLogs j j

def RecasedField (key : Option String) (j j' : Json) : Prop :=
  if key = some "status" then RecasedText j j'
  else if key = some "logs" then RecasedLogs j j' else j = j'

def Recased : Json → Json → Prop := Fieldwise names RecasedField

theorem RecasedField.eq {key : String} {j j' : Json} (h : RecasedField (some key) j j')
    (hstatus : key ≠ "status") (hlogs : key ≠ "logs") : j = j' := by
  simpa [RecasedField, hstatus, hlogs] using h

/-- Entry by entry both are errors or neither is, and the statuses are in the same letters. -/
structure SameKind (m m' : Message) : Prop where
  status : Option.Rel SameLetters m.status m'.status
  logs : List.Forall₂ Entry.SameKind m.logs m'.logs

theorem forall₂_sameKind (es : List Entry) : List.Forall₂ Entry.SameKind es es :=
  List.forall₂_same.mpr fun _ _ => rfl

theorem sameKind_same (m? : Option Message) : Option.Rel SameKind m? m? := by
  cases m? with
  | none => exact .none
  | some m => exact .some ⟨sameLetters_same _, forall₂_sameKind _⟩

theorem alike_readItem {x y : Option Json} (h : Option.Rel RecasedText x y) :
    Alike (Option.Rel SameLetters) (readItem x) (readItem y) := by
  cases h with
  | none => exact .ok .none
  | some h => exact alike_optionalString h

theorem alike_readEntries {items items' : List Json} (h : List.Forall₂ Entry.Recased items items')
    (closed : Bool) : Alike (List.Forall₂ Entry.SameKind) (readEntries closed items)
      (readEntries closed items') := by
  induction h with
  | nil => exact alike_after fun _ => .ok .nil
  | cons h _ ih =>
    rw [readEntries, readEntries]
    exact alike_bind (Entry.alike_ofJson h) fun _ _ he => alike_bind ih fun _ _ hes =>
      .ok (.cons he hes)

theorem alike_readLogs {j j' : Json} (h : RecasedLogs j j') :
    Alike (List.Forall₂ Entry.SameKind) (readLogs j) (readLogs j') := by
  cases h with
  | entries h closed => exact alike_readEntries h closed
  | same j => exact alike_same forall₂_sameKind _

structure Fields.Recased (f g : Fields) : Prop where
  testCase : f.testCase = g.testCase
  scriptType : f.scriptType = g.scriptType
  status : Option.Rel (Option.Rel SameLetters) f.status g.status
  logs : Option.Rel (List.Forall₂ Entry.SameKind) f.logs g.logs

theorem Fields.Recased.sameKind {f g : Fields} (h : f.Recased g) :
    f.message.SameKind g.message := by
  obtain ⟨testCase, scriptType, status, logs⟩ := f
  obtain ⟨_, _, status', logs'⟩ := g
  obtain ⟨-, -, hstatus, hlogs⟩ := h
  constructor
  · cases hstatus with
    | none => exact .none
    | some h => exact h
  · cases hlogs with
    | none => exact .nil
    | some h => exact h

theorem alike_readField {f g : Fields} {key : String} {j j' : Json} (h : f.Recased g)
    (hj : RecasedField (some key) j j') :
    Alike Fields.Recased (readField f key j) (readField g key j') := by
  obtain ⟨testCase, scriptType, status, logs⟩ := f
  obtain ⟨_, _, status', logs'⟩ := g
  obtain ⟨rfl, rfl, hstatus, hlogs⟩ := h
  by_cases hkey : key = "status"
  · subst hkey
    have hread (f : Fields) (j : Json) : readField f "status" j =
        if f.status.isSome then .error (.duplicate "status")
        else optionalString j >>= fun st => pure { f with status := some st } := rfl
    rw [hread, hread]
    cases hstatus with
    | some h => exact .error _
    | none =>
      exact alike_bind (alike_optionalString hj) fun _ _ hst => .ok ⟨rfl, rfl, .some hst, hlogs⟩
  by_cases hkey' : key = "logs"
  · subst hkey'
    have hread (f : Fields) (j : Json) : readField f "logs" j =
        if f.logs.isSome then .error (.duplicate "logs")
        else readLogs j >>= fun es => pure { f with logs := some es } := rfl
    rw [hread, hread]
    cases hlogs with
    | some h => exact .error _
    | none => exact alike_bind (alike_readLogs hj) fun _ _ hes => .ok ⟨rfl, rfl, hstatus, .some hes⟩
  · obtain rfl := hj.eq hkey hkey'
    unfold readField
    rw [if_neg hkey, if_neg hkey, if_neg hkey', if_neg hkey']
    refine alike_ite (alike_ite (.error _) (alike_after fun _ => .ok ⟨rfl, rfl, hstatus, hlogs⟩)) ?_
    refine alike_ite (alike_ite (.error _) (alike_after fun _ => .ok ⟨rfl, rfl, hstatus, hlogs⟩)) ?_
    exact alike_after fun _ => .ok ⟨rfl, rfl, hstatus, hlogs⟩

theorem alike_ofJson {j j' : Json} (h : Recased j j') :
    Alike (Option.Rel SameKind) (ofJson j) (ofJson j') := by
  cases h with
  | same j => exact alike_same sameKind_same _
  | members h closed =>
    have hstart : Fields.Recased {} {} := ⟨rfl, rfl, .none, .none⟩
    exact alike_bind (alike_foldMembers alike_readField h closed hstart) fun f g hfg =>
      .ok (.some hfg.sameKind)
  | positions h closed =>
    have hitem (key : String) (hkey : key ≠ "status") (hkey' : key ≠ "logs") {x y : Option Json}
        (h : Option.Rel (RecasedField (some key)) x y) :
        Alike (Option.Rel SameLetters) (readItem x) (readItem y) := by
      apply alike_readItem
      cases h with
      | none => exact .none
      | some h => exact .some (h.eq hkey hkey' ▸ .same _)
    unfold ofJson
    refine alike_nextItem h closed fun first first' items items' hfirst h => ?_
    refine alike_bind (hitem "testcaseid" (by decide) (by decide) hfirst) fun _ _ _ => ?_
    refine alike_nextItem h closed fun second second' items items' hsecond h => ?_
    refine alike_bind (hitem "script_type" (by decide) (by decide) hsecond) fun _ _ _ => ?_
    refine alike_nextItem h closed fun third third' items items' hthird h => ?_
    have hthird : Option.Rel RecasedText third third' := hthird
    refine alike_bind (alike_readItem hthird) fun st st' hst => ?_
    refine alike_nextItem h closed fun fourth fourth' items items' hfourth h => ?_
    have hlogs (j j' : Json) (h : RecasedField (some "logs") j j') := alike_readLogs h
    refine alike_match hlogs .nil (fun es es' hes => ?_) hfourth
    rw [noMoreItems_eq h closed]
    exact alike_after fun _ => .ok (.some ⟨hst, hes⟩)

end Message

end Testbed
