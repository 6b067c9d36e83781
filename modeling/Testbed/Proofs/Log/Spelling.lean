import Testbed.Log
import Testbed.Proofs.Json.Record

/-!
# The spellings of a log entry

An entry may be an object or an array of its fields. A field that has its default may be left out or
written as `null`, and the four statuses that have names may be in any letter case. All these are
the same entry, and an object that gives a field twice is none.
-/

namespace Testbed.Log

open Json

/-- A text for the status: a name in any letter case, or what has no name as it is. -/
def Status.IsSpelled : Status → String → Prop
  | .other s, t => t = s ∧ Text.asciiUpper s ∉ ["INFO", "DEBUG", "SUCCESS", "ERROR"]
  | st, t => Text.asciiUpper t = st.text

inductive IsStatus : Option Json → Status → Prop where
  | default {x : Option Json} (h : IsOptional x none) : IsStatus x .info
  | text {x : Option Json} {t : String} {st : Status} (h : IsOptional x (some t))
    (ht : st.IsSpelled t) : IsStatus x st

def IsDefaulted (x : Option Json) (s : String) : Prop := ∃ o, IsOptional x o ∧ o.getD "" = s

namespace Entry

def names : List String := ["timestamp", "message", "status"]

inductive IsSpelled : Entry → Json → Prop where
  | record {timestamp message : String} {st : Status} {item : String → Option Json} {j : Json}
    (h : IsRecord names item j) (htimestamp : IsDefaulted (item "timestamp") timestamp)
    (hmessage : IsDefaulted (item "message") message) (hstatus : IsStatus (item "status") st) :
    IsSpelled ⟨.given timestamp, message, st⟩ j

inductive Repeats : Json → Prop where
  | members {name : String} (hname : name ∈ names) {x y : Json}
    {members : List (Option String × Json)} {closed : Bool}
    (h : [(some name, x), (some name, y)].Sublist members) : Repeats (.object members closed)

end Entry

theorem Status.ofText_of_isSpelled {st : Status} {t : String} (h : st.IsSpelled t) :
    ofText t = st := by
  cases st with
  | other s =>
    obtain ⟨rfl, hnone⟩ := h
    simp only [List.mem_cons, List.not_mem_nil, or_false, not_or] at hnone
    simp [ofText, hnone]
  | _ => simp [ofText, show Text.asciiUpper t = _ from h, text]

namespace Entry

theorem reads_readText {x : Option Json} {s : String} (h : IsDefaulted x s) :
    Reads readText "" x s := by
  obtain ⟨o, ho, rfl⟩ := h
  cases ho <;> rfl

theorem reads_readStatus {x : Option Json} {st : Status} (h : IsStatus x st) :
    Reads readStatus .info x st := by
  cases h with
  | default h => cases h <;> rfl
  | text h ht =>
    cases h
    exact congrArg Except.ok (Status.ofText_of_isSpelled ht)

/-- What is expected of the members that are still to come when these are read. -/
structure Fields.Awaits (f g : Fields) (ms : List (String × Json)) : Prop where
  timestamp : Pending readText f.timestamp (given ["timestamp"] ms) g.timestamp
  message : Pending readText f.message (given ["message"] ms) g.message
  status : Pending readStatus f.status (given ["status"] ms) g.status
  intact : ∀ m ∈ ms, m.2.intact = true

theorem Fields.Awaits.step {f g : Fields} {key : String} {j : Json} {ms : List (String × Json)}
    (h : f.Awaits g ((key, j) :: ms)) : ∃ f', readField f key j = .ok f' ∧ f'.Awaits g ms := by
  obtain ⟨htimestamp, hmessage, hstatus, hintact⟩ := h
  obtain ⟨hj, hms⟩ := List.forall_mem_cons.mp hintact
  by_cases hkey : key = "timestamp"
  · subst hkey
    obtain ⟨hnone, v, hv, hrest⟩ := htimestamp.fill (by decide)
    exact ⟨{ f with timestamp := some v }, by simp [readField, hnone, hv], hrest,
      hmessage.skip (by decide), hstatus.skip (by decide), hms⟩
  by_cases hkey' : key = "message"
  · subst hkey'
    obtain ⟨hnone, v, hv, hrest⟩ := hmessage.fill (by decide)
    exact ⟨{ f with message := some v }, by simp [readField, hnone, hv],
      htimestamp.skip (by decide), hrest, hstatus.skip (by decide), hms⟩
  by_cases hkey'' : key = "status"
  · subst hkey''
    obtain ⟨hnone, v, hv, hrest⟩ := hstatus.fill (by decide)
    exact ⟨{ f with status := some v }, by simp [readField, hnone, hv],
      htimestamp.skip (by decide), hmessage.skip (by decide), hrest, hms⟩
  · exact ⟨f, by simp [readField, hkey, hkey', hkey'', ignored, hj],
      htimestamp.skip (by simpa), hmessage.skip (by simpa), hstatus.skip (by simpa), hms⟩

theorem Fields.Awaits.eq {f g : Fields} (h : f.Awaits g []) : f = g := by
  obtain ⟨htimestamp, hmessage, hstatus, -⟩ := h
  cases f
  cases g
  cases htimestamp
  cases hmessage
  cases hstatus
  rfl

section Reading

variable {item : String → Option Json} {timestamp message : String} {st : Status}

theorem ofJson_members (htimestamp : Reads readText "" (item "timestamp") timestamp)
    (hmessage : Reads readText "" (item "message") message)
    (hstatus : Reads readStatus .info (item "status") st) {ms : List (String × Json)}
    (hgiven : ∀ name ∈ names, given [name] ms = (item name).toList)
    (hms : ∀ m ∈ ms, m.2.intact = true) :
    ofJson (.object (named ms) true) = .ok ⟨.given timestamp, message, st⟩ := by
  let g : Fields := ⟨(item "timestamp").map fun _ => timestamp,
    (item "message").map fun _ => message, (item "status").map fun _ => st⟩
  have hstart : Fields.Awaits {} g ms := by
    refine ⟨?_, ?_, ?_, hms⟩
    · rw [hgiven _ (by decide)]
      exact htimestamp.pending
    · rw [hgiven _ (by decide)]
      exact hmessage.pending
    · rw [hgiven _ (by decide)]
      exact hstatus.pending
  have hfold : foldMembers readField true {} (named ms) = .ok g :=
    foldMembers_eq_ok (Φ := fun f ms => f.Awaits g ms) Fields.Awaits.step Fields.Awaits.eq hstart
  have hentry : g.entry = ⟨.given timestamp, message, st⟩ := by
    simp only [g, Fields.entry, htimestamp.getD_eq, hmessage.getD_eq, hstatus.getD_eq]
  rw [ofJson, hfold, ← hentry]
  rfl

theorem ofJson_positions {items : List Json} (hlength : items.length ≤ 3)
    (htimestamp : Reads readText "" items[0]? timestamp)
    (hmessage : Reads readText "" items[1]? message)
    (hstatus : Reads readStatus .info items[2]? st) :
    ofJson (.array items true) = .ok ⟨.given timestamp, message, st⟩ := by
  have hfirst := nextItem_drop items 0
  rw [List.drop_zero] at hfirst
  rw [ofJson, hfirst]
  refine (match_bind _ _).trans ?_
  rw [htimestamp]
  change (nextItem true (items.drop 1) >>= _) = _
  rw [nextItem_drop]
  refine (match_bind _ _).trans ?_
  rw [hmessage]
  change (nextItem true (items.drop 2) >>= _) = _
  rw [nextItem_drop]
  refine (match_bind _ _).trans ?_
  rw [hstatus]
  change (noMoreItems true (items.drop 3) >>= _) = _
  rw [noMoreItems_drop hlength]
  rfl

/-- Every tree for an entry is read as that entry. -/
theorem ofJson_of_isSpelled {e : Entry} {j : Json} (h : e.IsSpelled j) (hj : j.intact = true) :
    ofJson j = .ok e := by
  cases h with
  | record hrecord htimestamp hmessage hstatus =>
    have htimestamp := reads_readText htimestamp
    have hmessage := reads_readText hmessage
    have hstatus := reads_readStatus hstatus
    cases hrecord with
    | members ms hgiven =>
      exact ofJson_members htimestamp hmessage hstatus hgiven
        (intact_of_mem_named (by simpa [Json.intact] using hj))
    | positions hlength hitem =>
      rw [hitem 0 _ rfl] at htimestamp
      rw [hitem 1 _ rfl] at hmessage
      rw [hitem 2 _ rfl] at hstatus
      exact ofJson_positions hlength htimestamp hmessage hstatus

end Reading

section Repeating

def Fields.has (f : Fields) (name : String) : Bool :=
  name = "timestamp" && f.timestamp.isSome || name = "message" && f.message.isSome ||
    name = "status" && f.status.isSome

theorem gives_has (f : Fields) (key : String) (j : Json) : Gives (readField f key j) fun g =>
    ∀ name ∈ names, g.has name = (f.has name || decide (name = key)) := by
  unfold readField
  split_ifs with htimestamp _ hmessage _ hstatus
  · exact gives_error _
  · subst htimestamp
    exact gives_after fun v => gives_pure (by simp [names, Fields.has])
  · exact gives_error _
  · subst hmessage
    exact gives_after fun v => gives_pure (by simp [names, Fields.has])
  · exact gives_error _
  · subst hstatus
    exact gives_after fun v => gives_pure (by simp [names, Fields.has])
  · refine gives_after fun _ => gives_pure fun name hname => ?_
    have hne : name ≠ key := by
      rintro rfl
      simp_all [names]
    simp [hne]

theorem refused_of_has {f : Fields} {name : String} (hname : name ∈ names)
    (h : f.has name = true) (j : Json) : Gives (readField f name j) fun _ => False := by
  have hread : readField f name j = .error (.duplicate name) := by
    simp only [names, List.mem_cons, List.not_mem_nil, or_false] at hname
    obtain rfl | rfl | rfl := hname <;> simp [Fields.has] at h <;> simp [readField, h]
  rw [hread]
  exact gives_error _

theorem readsOnce {name : String} (hname : name ∈ names) :
    ReadsOnce readField [name] (·.has name = true) where
  refused hkey h j := List.mem_singleton.mp hkey ▸ refused_of_has hname h j
  marked hkey a j := (gives_has a _ j).mono fun g hg => by
    simp [hg name hname, List.mem_singleton.mp hkey]
  kept h key j := (gives_has _ key j).mono fun g hg => by simp [hg name hname, h]

theorem gives_of_repeats {j : Json} (h : Repeats j) : Gives (ofJson j) fun _ => False := by
  obtain ⟨hname, hsublist⟩ := h
  have hfold := (readsOnce hname).gives_foldMembers (by simp) (by simp) hsublist
  exact gives_bind (hfold _ _) fun _ hno => hno.elim

end Repeating

end Entry

end Testbed.Log
