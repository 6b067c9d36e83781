import Testbed.Proofs.Log.Spelling
import Testbed.Proofs.Message.Received

/-!
# The JSON of a log entry

An entry is written as an object of its three fields. The object is read as the entry again unless
its status is spelled like one of the four that have names. No text is read as such an entry, so
whatever has been read is written and read without change from then on.
-/

namespace Testbed.Log

open Json

/-- A status that has a name, or a spelling that is a name in no letter case. -/
def Status.IsCanonical (st : Status) : Prop :=
  ∀ s, st = .other s → Text.asciiUpper s ∉ ["INFO", "DEBUG", "SUCCESS", "ERROR"]

theorem Status.isSpelled_text {st : Status} (h : st.IsCanonical) : st.IsSpelled st.text := by
  cases st with
  | other s => exact ⟨rfl, h s rfl⟩
  | _ => exact show Text.asciiUpper _ = _ by decide

/-- The canonical statuses are those that their own spelling names. -/
theorem Status.isNamed_iff (st : Status) : st.IsNamed ↔ st.IsCanonical := by
  constructor
  · rintro h s rfl hname
    have hread : ofText s = .other s := h
    simp only [List.mem_cons, List.not_mem_nil, or_false] at hname
    obtain hname | hname | hname | hname := hname <;> simp [ofText, hname] at hread
  · intro h
    exact ofText_of_isSpelled (isSpelled_text h)

namespace Entry

def tree (clock : String) (e : Entry) : Json :=
  .object (named [("timestamp", .string (some (e.stamp.text clock))),
    ("message", .string (some e.message)), ("status", .string (some e.status.text))]) true

section Writing

variable (clock : String) (e : Entry)

theorem isText_json : IsText (e.tree clock) (e.json clock).toList := by
  have hfield (s : String) : IsText (.string (some s)) (quote s) := .string (isString_quote s)
  have h := IsText.object (.cons isGap_nil (isString_quote "timestamp") isGap_nil
    (hfield (e.stamp.text clock)) (.cons isGap_nil (isString_quote "message") isGap_nil
      (hfield e.message) (.last isGap_nil (isString_quote "status") isGap_nil
        (hfield e.status.text))))
  simpa [tree, named, json] using h

theorem ofJson_tree : ofJson (e.tree clock) =
    .ok ⟨.given (e.stamp.text clock), e.message, .ofText e.status.text⟩ := by
  let item (name : String) : Option Json :=
    if name = "timestamp" then some (.string (some (e.stamp.text clock)))
    else if name = "message" then some (.string (some e.message))
    else some (.string (some e.status.text))
  have htimestamp : Reads readText "" (item "timestamp") (e.stamp.text clock) := rfl
  have hmessage : Reads readText "" (item "message") e.message := rfl
  have hstatus : Reads readStatus .info (item "status") (.ofText e.status.text) := rfl
  refine ofJson_members htimestamp hmessage hstatus ?_ ?_
  · simp [names, given, item]
  · simp [Json.intact]

/-- What is read of a written entry: it bears the stamp that was written, and the status that its
spelling names. -/
theorem ofText_json [Wording] : ofText (e.json clock) =
    .ok ⟨.given (e.stamp.text clock), e.message, .ofText e.status.text⟩ := by
  rw [ofText, readText_eq (isText_json clock e), ofJson_tree]

end Writing

theorem ofText_json_iff [Wording] (clock : String) (e : Entry) :
    ofText (e.json clock) = .ok { e with stamp := .given (e.stamp.text clock) } ↔
      e.status.IsCanonical := by
  rw [ofText_json, ← Status.isNamed_iff, Status.IsNamed]
  constructor
  · intro h
    exact congrArg Entry.status (Except.ok.inj h)
  · intro h
    rw [h]

theorem isGiven_of_ofText [Wording] {s : String} {e : Entry} (h : ofText s = .ok e) :
    e.IsGiven := by
  unfold ofText at h
  cases hread : Json.readText ofJson s with
  | error f => simp [hread] at h
  | ok e' =>
    have hsame : e' = e := by simpa [hread] using h
    rw [← hsame]
    exact gives_readText gives_ofJson s e' hread

/-- An entry is read back with all that was written of it just if its status is canonical. Whatever
a text is read as is read back, and written again without any change and without regard to the
clock. -/
theorem written_is_read_back [Wording] (clock : String) :
    (∀ e : Entry,
      ofText (e.json clock) = .ok { e with stamp := .given (e.stamp.text clock) } ↔
        e.status.IsCanonical) ∧
    ∀ (s : String) (e : Entry), ofText s = .ok e →
      ofText (e.json clock) = .ok e ∧
      ∀ e', ofText (e.json clock) = .ok e' → ∀ clock', e'.json clock' = e.json clock := by
  refine ⟨ofText_json_iff clock, ?_⟩
  rintro s ⟨stamp, message, st⟩ hs
  obtain ⟨hstamp, hnamed⟩ := isGiven_of_ofText hs
  obtain ⟨timestamp, rfl⟩ : ∃ t, stamp = .given t := by
    cases stamp with
    | now => exact absurd rfl hstamp
    | given t => exact ⟨t, rfl⟩
  have hback := (ofText_json_iff clock ⟨.given timestamp, message, st⟩).mpr
    ((Status.isNamed_iff st).mp hnamed)
  refine ⟨hback, fun e' he' clock' => ?_⟩
  obtain rfl : _ = e' := Except.ok.inj (hback.symm.trans he')
  rfl

/-- A text with a field left out, escapes of two kinds and a status in small letters. -/
theorem written_is_read_back_escapes :
    let s := "\x7b \"status\":\"eRRor\", \"message\":\"\\u0041\\\\\\\"\\u0001\\n/\" \x7d"
    let e : Entry := ⟨.given "", "A\\\"\x01\n/", .error⟩
    let written := "\x7b\"timestamp\":\"\",\"message\":\"A\\\\\\\"\\u0001\\n/\"," ++
      "\"status\":\"ERROR\"\x7d"
    ofText s = .ok e ∧ e.json "12:00" = written ∧ ofText written = .ok e ∧
      ∀ clock, e.json clock = written := by
  intro s e written
  have hread : ofText s = .ok e := by decide +kernel
  have hwritten : e.json "12:00" = written := by decide +kernel
  obtain ⟨hback, hagain⟩ := (written_is_read_back "12:00").2 s e hread
  rw [hwritten] at hback hagain
  exact ⟨hread, hwritten, hback, hagain e hback⟩

end Entry

end Testbed.Log
