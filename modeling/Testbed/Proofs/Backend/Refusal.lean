import Testbed.Backend
import Testbed.Network
import Testbed.Proofs.Json.Prefix
import Testbed.Proofs.Json.Record
import Testbed.Proofs.Json.Spelled

/-!
# Replies without success

A reply whose status is no success is refused with that status. The message is the detail that the
body tells, if it is the text of an object with just one detail or of an array that holds nothing
else; of any other body nothing is read, and the message is the one that the operation has for this.
What text a body is depends on the charsets that the client knows, and a body that breaks off is
none.
-/

namespace Testbed.Backend

open Http (Charsets Reply)
open Json (IsText Pending foldMembers given ignored named optionalString)

/-- The tree tells this detail: as the one member of that name, whatever else is in the object, or
as the only item of an array. -/
inductive IsDetail (d : String) : Json → Prop where
  | member (ms : List (String × Json)) (h : given ["detail"] ms = [.string (some d)]) :
    IsDetail d (.object (named ms) true)
  | item : IsDetail d (.array [.string (some d)] true)

def Tells (body d : String) : Prop := ∃ j, IsText j body.toList ∧ IsDetail d j

/-- The reply is refused with its status and with what its body tells, or otherwise with the message
that the operation has for such replies. -/
def RefusedAs [Charsets] (otherwise : String) (r : Reply) (p : Problem) : Prop :=
  ∃ message, p = .refused r.status message ∧
    (∀ body d, r.text = .ok body → Tells body d → message = d) ∧
    ((∀ body d, r.text = .ok body → ¬Tells body d) → message = otherwise)

section Details

variable {a b : Option (Option String)} {d : String} {j : Json}

def Awaits (b a : Option (Option String)) (ms : List (String × Json)) : Prop :=
  Pending optionalString a (given ["detail"] ms) b ∧ ∀ m ∈ ms, m.2.intact = true

theorem awaits_of_readDetail {key : String} {ms : List (String × Json)} {o : Option (Option String)}
    (hread : readDetail a key j = .ok b) (h : Awaits o b ms) : Awaits o a ((key, j) :: ms) := by
  obtain ⟨hpending, hms⟩ := h
  unfold readDetail at hread
  split_ifs at hread with hkey hsome
  · obtain ⟨v, hv, hb⟩ := exists_of_bind_ok hread
    obtain rfl := Except.ok.inj hb
    obtain rfl : a = none := by simpa using hsome
    exact ⟨hpending.one_of_fill hv (by simpa using hkey),
      List.forall_mem_cons.mpr ⟨Json.intact_of_optionalString hv, hms⟩⟩
  · obtain ⟨_, hj, hb⟩ := exists_of_bind_ok hread
    obtain rfl := Except.ok.inj hb
    exact ⟨hpending.of_skip (by simpa using hkey),
      List.forall_mem_cons.mpr ⟨Json.intact_of_ignored hj, hms⟩⟩

/-- A detail is read from the members of an object whatever stands around it. -/
theorem foldMembers_of_given {ms : List (String × Json)}
    (h : given ["detail"] ms = [.string (some d)]) (hms : ∀ m ∈ ms, m.2.intact = true) :
    foldMembers readDetail true none (named ms) = .ok (some (some d)) := by
  have hstart : Awaits (some (some d)) none ms := ⟨by rw [h]; exact .one rfl, hms⟩
  refine Json.foldMembers_eq_ok (Φ := Awaits (some (some d))) ?_ ?_ hstart
  · rintro o key j ms ⟨hpending, hms⟩
    obtain ⟨hj, hms⟩ := List.forall_mem_cons.mp hms
    by_cases hkey : key = "detail"
    · obtain ⟨rfl, v, hv, hrest⟩ := hpending.fill (by simpa using hkey)
      exact ⟨some v, by simp [readDetail, hkey, hv], hrest, hms⟩
    · exact ⟨o, by simp [readDetail, hkey, ignored, hj], hpending.skip (by simpa using hkey), hms⟩
  · rintro o ⟨hpending, -⟩
    cases hpending
    rfl

theorem eq_of_optionalString (h : optionalString j = .ok (some d)) : j = .string (some d) := by
  obtain ⟨hnone, -⟩ | ⟨s, hs, rfl⟩ := Json.optionalString_eq_ok_iff.mp h
  · cases hnone
  · rw [Option.some.inj hs]

theorem isDetail_of_members {members : List (Option String × Json)} {closed : Bool}
    (h : detailOfJson (.object members closed) = .ok (some d)) :
    IsDetail d (.object members closed) ∧ (Json.object members closed).intact = true := by
  obtain ⟨o, hfold, ho⟩ := exists_of_bind_ok h
  obtain ⟨rfl, ms, rfl, hpending, hms⟩ := Json.exists_of_foldMembers (Φ := Awaits o)
    awaits_of_readDetail ⟨.rest o, by simp⟩ hfold
  refine ⟨.member ms ?_, by rw [Json.intact, Json.intactMembers_named hms, Bool.and_true]⟩
  generalize given ["detail"] ms = values at hpending ⊢
  cases hpending with
  | rest => cases ho
  | @one x v hv =>
    obtain rfl : v = some d := Except.ok.inj ho
    rw [eq_of_optionalString hv]

theorem isDetail_of_items {items : List Json} {closed : Bool}
    (h : detailOfJson (.array items closed) = .ok (some d)) :
    IsDetail d (.array items closed) ∧ (Json.array items closed).intact = true := by
  cases items with
  | nil => cases closed <;> cases h
  | cons x items =>
    obtain ⟨v, hv, h⟩ := exists_of_bind_ok (x := optionalString x) h
    obtain ⟨_, hend, hd⟩ := exists_of_bind_ok h
    obtain rfl : v = some d := Except.ok.inj hd
    obtain rfl := eq_of_optionalString hv
    obtain ⟨rfl, rfl⟩ : closed = true ∧ items = [] := by
      simpa using Json.of_closing hend
    exact ⟨.item, rfl⟩

theorem detailOfJson_eq_ok_iff :
    detailOfJson j = .ok (some d) ↔ IsDetail d j ∧ j.intact = true := by
  constructor
  · intro h
    cases j with
    | object members closed => exact isDetail_of_members h
    | array items closed => exact isDetail_of_items h
    | _ => obtain ⟨x, -, hx⟩ := exists_of_bind_ok h; cases hx
  · rintro ⟨h, hj⟩
    cases h with
    | member ms h =>
      have hms : ∀ m ∈ ms, m.2.intact = true :=
        Json.intact_of_mem_named (by simpa [Json.intact] using hj)
      rw [detailOfJson, foldMembers_of_given h hms]
      rfl
    | item => rfl

theorem detail?_eq_some_iff {body : String} : detail? body = some d ↔ Tells body d := by
  constructor
  · intro h
    have hread : Json.readText detailOfJson body = .ok (some d) := by
      unfold detail? at h
      cases hread : Json.readText detailOfJson body with
      | error e => rw [hread] at h; cases h
      | ok o => rw [hread] at h; exact congrArg Except.ok h
    obtain ⟨j, htree, hj⟩ := Json.exists_of_readText hread
    obtain ⟨hdetail, hintact⟩ := detailOfJson_eq_ok_iff.mp hj
    exact ⟨j, Json.isText_iff.mpr ⟨htree, hintact⟩, hdetail⟩
  · rintro ⟨j, htext, hdetail⟩
    have hread := Json.readText_eq htext detailOfJson
    rw [detailOfJson_eq_ok_iff.mpr ⟨hdetail, htext.intact⟩] at hread
    rw [detail?, hread]

/-- A body tells what the tree tells that it spells. -/
theorem tells_iff {body : String} (h : IsText j body.toList) : Tells body d ↔ IsDetail d j := by
  refine ⟨fun ⟨k, hk, hd⟩ => ?_, fun hd => ⟨j, h, hd⟩⟩
  have htrees : (j, true) = (k, true) := (Json.ofText_eq h).symm.trans (Json.ofText_eq hk)
  rwa [(Prod.mk.inj htrees).1]

end Details

section Replies

/-- A client that knows UTF-8 only reads what it knows. -/
theorem readUtf8_utf8 : Charsets.utf8.ReadUtf8 := by
  intro _ s _ hmark
  have hsymbols : (Text.Utf8.symbols (Text.Utf8.encode s.toList)).map
      (·.getD (Char.ofNat 0xFFFD)) = s.toList := by
    rw [Text.Utf8.symbols_encode, List.map_map]
    exact List.map_id _
  have hdecode : Text.Utf8.decodeLenient (Text.Utf8.encode s.toList) = s.toList := by
    rw [Text.Utf8.decodeLenient, hsymbols]
    cases hs : s.toList with
    | nil => rfl
    | cons c r =>
      have hc : ¬c.toNat = 0xFEFF := by
        intro hc
        rw [hs, List.head?_cons, ← hc, Char.ofNat_toNat] at hmark
        exact hmark rfl
      exact if_neg hc
  exact (congrArg String.ofList hdecode).trans String.ofList_toList

variable [charsets : Charsets] {r : Reply} {otherwise : String}

theorem told?_eq_some_iff {d : String} :
    told? r = some d ↔ ∃ body, r.text = .ok body ∧ Tells body d := by
  unfold told?
  cases hr : r.text with
  | ok body => simpa [Except.toOption] using detail?_eq_some_iff
  | error why =>
    have hnone : detail? "" = none := rfl
    simp [Except.toOption, hnone]

theorem succeed_eq (h : r.status < 200 ∨ 300 ≤ r.status) (otherwise : String) :
    succeed otherwise r = .error (.refused r.status ((told? r).getD otherwise)) := by
  have hno : ¬Http.isSuccess r.status = true := by
    simp only [Http.isSuccess, Bool.and_eq_true, decide_eq_true_eq]
    omega
  rw [succeed, if_neg hno]

theorem refusedAs (r : Reply) (otherwise : String) :
    RefusedAs otherwise r (.refused r.status ((told? r).getD otherwise)) := by
  refine ⟨_, rfl, fun body d hr hd => ?_, fun h => ?_⟩
  · rw [told?_eq_some_iff.mpr ⟨body, hr, hd⟩, Option.getD_some]
  · cases hd : told? r with
    | none => rfl
    | some d =>
      obtain ⟨body, hr, hd⟩ := told?_eq_some_iff.mp hd
      exact absurd hd (h body d hr)

/-- A body in UTF-8 that says of no charset and has no mark is read as it is. -/
theorem text_of_utf8 (h : charsets.ReadUtf8) {body : String}
    (hbody : r.body = .whole (Text.Utf8.encode body.toList)) (hbare : Http.IsBare r.contentType)
    (hmark : body.toList.head? ≠ some (Char.ofNat 0xFEFF)) : r.text = .ok body := by
  rw [Reply.text, hbody]
  exact congrArg Except.ok (h _ body hbare hmark)

theorem read_of_fetchPlan [Json.Wording] {b : Backend} {testCase : String} {x : Exchange Plan}
    (h : b.fetchPlan testCase = .ok x) : x.read = readPlan := by
  obtain ⟨a, -, h⟩ := exists_of_bind_ok h
  obtain ⟨q, -, h⟩ := exists_of_bind_ok h
  exact (Except.ok.inj h) ▸ rfl

theorem read_of_executeScript {b : Backend} {testCase script : String} {kind : ScriptKind}
    {x : Exchange (List Log.Entry)} (h : b.executeScript testCase script kind = .ok x) :
    x.read = readOutput := by
  obtain ⟨a, -, h⟩ := exists_of_bind_ok h
  obtain ⟨q, -, h⟩ := exists_of_bind_ok h
  exact (Except.ok.inj h) ▸ rfl

end Replies

theorem perform_of_answer {α : Type} {n n' : Network} {e : Except Problem (Exchange α)}
    {x : Exchange α} {r : Reply} (h : e = .ok x) (hr : n.answer x.request = (.ok r, n')) :
    (n.perform e).1 = x.read r := by
  rw [h, Network.perform, hr]
  rfl

/-- A plan or an output is never read from a reply whose status is no success: the operation ends
with that status and with the detail of the body, or with a message of its own if the body tells
none. Whether it tells one depends on the tree that it spells, and an object that is broken off
tells none. What a body in UTF-8 spells is the same for all clients. -/
theorem status_refuses [charsets : Charsets] [Json.Wording] (b : Backend) (n n' : Network)
    (r : Reply) (hstatus : r.status < 200 ∨ 300 ≤ r.status) :
    (∀ testCase x, b.fetchPlan testCase = .ok x → n.answer x.request = (.ok r, n') →
      ∃ p, (n.perform (b.fetchPlan testCase)).1 = .error p ∧
        RefusedAs "Failed to fetch test plan." r p) ∧
    (∀ testCase script kind x, b.executeScript testCase script kind = .ok x →
      n.answer x.request = (.ok r, n') →
      ∃ p, (n.perform (b.executeScript testCase script kind)).1 = .error p ∧
        RefusedAs "Failed to execute script." r p) ∧
    (∀ body j d, IsText j body.toList → (Tells body d ↔ IsDetail d j)) ∧
    (∀ (body : String) j t rest d, IsText j ('\x7b' :: t ++ rest) → ¬Json.IsGap rest →
      body.toList = '\x7b' :: t → ¬Tells body d) ∧
    (charsets.ReadUtf8 → ∀ body : String, r.body = .whole (Text.Utf8.encode body.toList) →
      Http.IsBare r.contentType → body.toList.head? ≠ some (Char.ofNat 0xFEFF) →
      r.text = .ok body) := by
  refine ⟨fun testCase x h hr => ?_, fun testCase script kind x h hr => ?_,
    fun body j d h => tells_iff h, ?_, fun h body hbody hbare hmark =>
    text_of_utf8 h hbody hbare hmark⟩
  · refine ⟨_, ?_, refusedAs r fetchFailure⟩
    rw [perform_of_answer h hr, read_of_fetchPlan h, readPlan, succeed_eq hstatus]
    rfl
  · refine ⟨_, ?_, refusedAs r executeFailure⟩
    rw [perform_of_answer h hr, read_of_executeScript h, readOutput, succeed_eq hstatus]
    rfl
  · rintro body j t rest d hwhole hrest hbody ⟨k, hk, -⟩
    rw [hbody] at hk
    exact hrest (Json.eq_and_isGap_of_prefix hk hwhole).2

/-- A detail beside a member of which nothing could be read, with a number that is too large and
half of a surrogate pair. -/
theorem status_refuses_amongOthers :
    let _ : Charsets := .utf8
    let base : Address := ⟨"http", "", "", some (.name "h"), none, .segments [""], none, none⟩
    let b : Backend := ⟨⟨.default, base⟩, none, none⟩
    let body := "\x7b\"x\":[1e999,\"\\ud800\"],\"detail\":\"gone\"\x7d"
    let r : Reply := ⟨404, some "application/json", .whole (Text.Utf8.encode body.toList)⟩
    let n : Network := .server [r] .unreachable
    (r.status < 200 ∨ 300 ≤ r.status) ∧ Tells body "gone" ∧ r.text = .ok body ∧
      (n.perform (b.fetchPlan "TC1")).1 = .error (.refused 404 "gone") := by
  intro _ base b body r n
  have hstatus : r.status < 200 ∨ 300 ≤ r.status := by decide
  have hgap := Json.isGap_nil
  let large : Numeral := ⟨false, [1], [], false, [9, 9, 9]⟩
  have hlarge : large.IsText ['1', 'e', '9', '9', '9'] :=
    .parts (n := large) (.nonzero (by decide) (by simp [Numeral.AreDigits])) .none
      (.some (.inl rfl) .none (by simp [Numeral.AreDigits]))
  have hhalf : Json.IsString none ['"', '\\', 'u', 'd', '8', '0', '0', '"'] :=
    .quoted (.cons (.unit (w := 13) (x := 8) (y := 0) (z := 0) rfl rfl rfl rfl) .nil)
  let ms : List (String × Json) := [("x", .array [.number large, .string none] true),
    ("detail", .string (some "gone"))]
  have htext : IsText (.object (named ms) true) body.toList := by
    have hitems := Json.AreItems.cons (.number hlarge) (.last (.string hhalf))
    have h := IsText.object (.cons hgap (Json.isString_quote "x") hgap (.array hitems)
      (.last hgap (Json.isString_quote "detail") hgap (.string (Json.isString_quote "gone"))))
    exact Eq.subst (motive := IsText _) (by decide +kernel) h
  have hdetail : IsDetail "gone" (.object (named ms) true) := .member ms rfl
  have hasked : (b.fetchPlan "TC1").toOption.isSome = true := by decide +kernel
  obtain ⟨x, hx⟩ : ∃ x, b.fetchPlan "TC1" = .ok x := by
    cases h : b.fetchPlan "TC1" with
    | ok x => exact ⟨x, rfl⟩
    | error e => rw [h] at hasked; cases hasked
  obtain ⟨hfetch, -, htells, -, hread⟩ := status_refuses b n (.server [] .unreachable) r hstatus
  have hgone : Tells body "gone" := (htells _ _ "gone" htext).mpr hdetail
  have hbare : Http.IsBare r.contentType := by
    rintro t ⟨rfl⟩
    decide
  have hbody : r.text = .ok body := hread readUtf8_utf8 body rfl hbare (by decide)
  obtain ⟨p, hp, message, rfl, htold, -⟩ := hfetch "TC1" x hx rfl
  exact ⟨hstatus, hgone, hbody, by rw [hp, htold _ _ hbody hgone]⟩

end Testbed.Backend
