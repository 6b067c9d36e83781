import Mathlib.Data.List.Basic
import Testbed.Command.Perform
import Testbed.Proofs.Gives
import Testbed.Proofs.Script.Treatment
import Testbed.World

/-!
# Executing a test case

The command that executes a test case asks the backend for its plan and then hands over the script
of that plan. Each exchange needs the one before it: a script is handed over just if a plan came,
and lines are printed just if the script was executed.
-/

namespace Testbed

open Backend (Exchange planOfBytes readOutput readPlan scriptFile)
open Http (Charsets Reply Request isHeaderValue isSuccess)

def Settings.address (s : Settings) (key : String) (params : List (String × String)) :
    Except Problem Address := do
  (← s.resolver).httpAddress key params

/-- Requests to an endpoint can be made with a credential, and go to the address `a`. -/
structure Settings.Reaches (s : Settings) (token key : String) (params : List (String × String))
    (a : Address) : Prop where
  address : s.address key params = .ok a
  web : a.scheme = "http" ∨ a.scheme = "https"
  apiKey : ∀ k, s.api.apiKey = some k → isHeaderValue k = true
  credential : isHeaderValue (String.ofList (Text.trim token.toList)) = true

namespace Backend

variable {α : Type} {s : Settings} {token : String}

def exchangeWith (b : Backend) (key : String) (params : List (String × String))
    (m : Http.Method) (u : Option Http.Upload) (read : Reply → Except Problem α) :
    Except Problem (Exchange α) := do
  let a ← b.resolver.httpAddress key params
  return ⟨← b.request m a u, read⟩

theorem all_isHeaderValue_filter (k : Option String) :
    (k.filter (!·.isEmpty)).all isHeaderValue = k.all isHeaderValue := by
  cases k with
  | none => rfl
  | some k =>
    by_cases hk : k = ""
    · subst hk
      rfl
    · simp [Option.filter, hk]

/-- The backend of some settings and a credential, if they can be put into headers. -/
def ofSettings (s : Settings) (token : String) (r : Resolver) : Backend :=
  ⟨r, s.api.apiKey.filter (!·.isEmpty),
    (some (String.ofList (Text.trim token.toList))).filter (!·.isEmpty)⟩

theorem create_eq (r : Resolver) (key : Option String) :
    create r key =
      if key.all isHeaderValue = true then .ok ⟨r, key.filter (!·.isEmpty), none⟩
      else .error (.settings s!"Invalid api_key: {Http.badHeader}") := by
  simp only [create, all_isHeaderValue_filter]

theorem backend_eq_ok_iff {b : Backend} :
    Procedure.backend s (some token) = .ok b ↔
      ∃ r, s.resolver = .ok r ∧ s.api.apiKey.all isHeaderValue = true ∧
        b = ofSettings s token r := by
  rw [Procedure.backend]
  cases s.resolver with
  | error p => simp [bind, Except.bind]
  | ok r =>
    simp only [bind, Except.bind, create_eq]
    split_ifs with hk
    · simp [hk, pure, Except.pure, ofSettings, withBearer, eq_comm]
    · simp [hk]

theorem request_eq_ok_iff {b : Backend} {m : Http.Method} {a : Address} {u : Option Http.Upload}
    {q : Request} :
    b.request m a u = .ok q ↔
      b.bearer.all isHeaderValue = true ∧ (a.scheme = "http" ∨ a.scheme = "https") ∧
        q = ⟨m, a, b.headers, u⟩ := by
  rw [request]
  split_ifs with hb ha
  · simp_all
  · simp_all
  · have hweb : a.scheme = "http" ∨ a.scheme = "https" := by tauto
    constructor
    · intro h
      exact ⟨by simpa using hb, hweb, (Except.ok.inj h).symm⟩
    · rintro ⟨-, -, rfl⟩
      rfl

theorem exists_backend_of_reaches {key : String} {params : List (String × String)} {a : Address}
    (h : s.Reaches token key params a) : ∃ b, Procedure.backend s (some token) = .ok b := by
  obtain ⟨r, hr⟩ : ∃ r, s.resolver = .ok r := by
    cases hr : s.resolver with
    | error p => simpa [Settings.address, hr, bind, Except.bind] using h.address
    | ok r => exact ⟨r, rfl⟩
  have hkey : s.api.apiKey.all isHeaderValue = true := by
    cases hk : s.api.apiKey with
    | none => rfl
    | some k => exact h.apiKey k hk
  exact ⟨_, backend_eq_ok_iff.mpr ⟨r, hr, hkey, rfl⟩⟩

variable {b : Backend} (hb : Procedure.backend s (some token) = .ok b)
  {key : String} {params : List (String × String)}
include hb

theorem reaches_iff {a : Address} :
    s.Reaches token key params a ↔ b.resolver.httpAddress key params = .ok a ∧
      b.bearer.all isHeaderValue = true ∧ (a.scheme = "http" ∨ a.scheme = "https") := by
  obtain ⟨r, hr, hkey, rfl⟩ := backend_eq_ok_iff.mp hb
  have haddress : s.address key params = r.httpAddress key params := by
    rw [Settings.address, hr]
    rfl
  have hkey' : ∀ k, s.api.apiKey = some k → isHeaderValue k = true := by
    intro k hk
    simpa [hk] using hkey
  rw [ofSettings, all_isHeaderValue_filter, Option.all_some, ← haddress]
  exact ⟨fun h => ⟨h.address, h.credential, h.web⟩, fun h => ⟨h.1, h.2.2, hkey', h.2.1⟩⟩

variable (key params) in
/-- An exchange comes about just if its endpoint is within reach. -/
theorem exchangeWith_cases (m : Http.Method) (u : Option Http.Upload)
    (read : Reply → Except Problem α) :
    (∃ a, s.Reaches token key params a ∧
      b.exchangeWith key params m u read = .ok ⟨⟨m, a, b.headers, u⟩, read⟩) ∨
    (∀ a, ¬s.Reaches token key params a) ∧ ∃ p, b.exchangeWith key params m u read = .error p := by
  rw [exchangeWith]
  cases ha : b.resolver.httpAddress key params with
  | error p => exact .inr ⟨fun a h => by simp [reaches_iff hb, ha] at h, p, rfl⟩
  | ok a =>
    cases hq : b.request m a u with
    | error p =>
      refine .inr ⟨fun a' h => ?_, p, by simp [bind, Except.bind, hq]⟩
      obtain ⟨ha', hbearer, hweb⟩ := (reaches_iff hb).mp h
      obtain rfl : a = a' := Except.ok.inj (ha.symm.trans ha')
      simp [request_eq_ok_iff.mpr ⟨hbearer, hweb, rfl⟩] at hq
    | ok q =>
      obtain ⟨hbearer, hweb, rfl⟩ := request_eq_ok_iff.mp hq
      exact .inl ⟨a, (reaches_iff hb).mpr ⟨ha, hbearer, hweb⟩, by simp [bind, Except.bind, hq]; rfl⟩

end Backend

namespace Procedure

open Command

section Traces

variable {_ : Json.Wording} (next : Procedure) (w : World)

theorem trace_printAll (texts : List String) :
    (printAll texts next).trace w =
      { next.trace w with out := String.join texts ++ (next.trace w).out } := by
  induction texts with
  | nil => simp [printAll]
  | cons text texts ih =>
    rw [printAll, List.foldr_cons, ← printAll, trace, ih]
    simp [String.append_assoc]

theorem trace_warnAll (texts : List String) :
    (warnAll texts next).trace w =
      { next.trace w with err := String.join texts ++ (next.trace w).err } := by
  induction texts with
  | nil => simp [warnAll]
  | cons text texts ih =>
    rw [warnAll, List.foldr_cons, ← warnAll, trace, ih]
    simp [String.append_assoc]

end Traces

section Exchanges

variable {_ : Json.Wording} {α : Type} (replies : List Reply) (peer : Socket.Peer) (files : Files)
  (time : Nat) (x : Exchange α) (next : α → Procedure)

theorem trace_ask_unanswered :
    ∃ e, (ask (.ok x) next).trace ⟨files, .server [] peer, time⟩ =
      ⟨1, "", e, [x.request], [], files⟩ := ⟨_, rfl⟩

theorem trace_ask_error {r : Reply} {e : Problem} (h : x.read r = .error e) :
    ∃ err, (ask (.ok x) next).trace ⟨files, .server (r :: replies) peer, time⟩ =
      ⟨1, "", err, [x.request], [], files⟩ := by
  refine ⟨s!"Error: {e.message}\n" ++ "", ?_⟩
  simp [ask, require, trace, Network.answer, Network.received, Except.bind, h, fail]

theorem trace_ask_ok {r : Reply} {y : α} (h : x.read r = .ok y) :
    (ask (.ok x) next).trace ⟨files, .server (r :: replies) peer, time⟩ =
      let t := (next y).trace ⟨files, .server replies peer, time⟩
      { t with requests := x.request :: t.requests } := by
  simp [ask, require, trace, Network.answer, Network.received, Except.bind, h]

end Exchanges

theorem exitCode_eq_zero (ok : Bool) : exitCode ok = 0 ↔ ok = true := by
  cases ok <;> decide

theorem bytes_eq_ok_iff {body : Http.Body} {bytes : List UInt8} :
    body.bytes = .ok bytes ↔ body = .whole bytes := by
  cases body <;> simp [Http.Body.bytes]

def Planned [Json.Wording] (replies : List Reply) (p : Plan) : Prop :=
  ∃ r bytes, replies[0]? = some r ∧ isSuccess r.status = true ∧ r.body = .whole bytes ∧
    planOfBytes bytes = .ok p

theorem not_planned_nil [Json.Wording] (p : Plan) : ¬Planned [] p := by
  rintro ⟨r, bytes, hr, -⟩
  cases hr

section Answers

variable [Charsets] {_ : Json.Wording}

def Executed (replies : List Reply) (es : List Log.Entry) : Prop :=
  ∃ r output, replies[1]? = some r ∧ isSuccess r.status = true ∧ r.text = .ok output ∧
    es = Output.entries output

/-- How the execution of a test case can go: the requests that it makes, what it prints and its exit
code, by what can be reached and what is answered. -/
inductive Episode [Json.Wording] (clock : String) (s : Settings) (testCase : String)
    (kind : ScriptKind) (token : String) (replies : List Reply) :
    List Request → String → Nat → Prop where
  | unasked (h : ∀ a, ¬s.Reaches token "TestPlan" [("testCaseId", testCase)] a) :
    Episode clock s testCase kind token replies [] "" 1
  | unplanned {a hs} (ha : s.Reaches token "TestPlan" [("testCaseId", testCase)] a)
      (h : ∀ p, ¬Planned replies p) :
    Episode clock s testCase kind token replies [⟨.get, a, hs, none⟩] "" 1
  | unposted {a hs p} (ha : s.Reaches token "TestPlan" [("testCaseId", testCase)] a)
      (hp : Planned replies p)
      (h : ∀ a, ¬s.Reaches token "ExecuteCode" [("script_type", kind.name)] a) :
    Episode clock s testCase kind token replies [⟨.get, a, hs, none⟩] "" 1
  | unexecuted {a hs a' hs' p} (ha : s.Reaches token "TestPlan" [("testCaseId", testCase)] a)
      (hp : Planned replies p)
      (ha' : s.Reaches token "ExecuteCode" [("script_type", kind.name)] a')
      (h : ∀ es, ¬Executed replies es) :
    Episode clock s testCase kind token replies
      [⟨.get, a, hs, none⟩, ⟨.post, a', hs', some (scriptFile testCase (Script.ofPlan p))⟩] "" 1
  | executed {a hs a' hs' p es} (ha : s.Reaches token "TestPlan" [("testCaseId", testCase)] a)
      (hp : Planned replies p)
      (ha' : s.Reaches token "ExecuteCode" [("script_type", kind.name)] a')
      (hes : Executed replies es) :
    Episode clock s testCase kind token replies
      [⟨.get, a, hs, none⟩, ⟨.post, a', hs', some (scriptFile testCase (Script.ofPlan p))⟩]
      (String.join (es.map (entryLine clock))) (exitCode (!es.any (·.isError)))

section Episodes

variable (clock : String) (s : Settings) (testCase : String) (kind : ScriptKind)
  (token : String) (replies : List Reply) (peer : Socket.Peer) (files : Files) (time : Nat)

theorem succeed_eq_ok_iff {otherwise : String} {r r' : Reply} :
    Backend.succeed otherwise r = .ok r' ↔ isSuccess r.status = true ∧ r = r' := by
  unfold Backend.succeed
  split_ifs with hr <;> simp [hr]

theorem planned_cons_iff {r : Reply} {rs : List Reply} {p : Plan} :
    Planned (r :: rs) p ↔ readPlan r = .ok p := by
  constructor
  · rintro ⟨_, bytes, ⟨rfl⟩, hr, hbody, hp⟩
    simp [readPlan, Backend.succeed, hr, hbody, Http.Body.bytes, hp, bind, Except.bind]
  · intro h
    obtain ⟨r', hr', h⟩ := exists_of_bind_ok h
    obtain ⟨bytes, hbytes, hp⟩ := exists_of_bind_ok h
    obtain ⟨hr, rfl⟩ := succeed_eq_ok_iff.mp hr'
    exact ⟨r, bytes, rfl, hr, bytes_eq_ok_iff.mp hbytes, hp⟩

theorem executed_cons_cons_iff {r₀ r : Reply} {rs : List Reply} {es : List Log.Entry} :
    Executed (r₀ :: r :: rs) es ↔ readOutput r = .ok es := by
  constructor
  · rintro ⟨_, output, ⟨rfl⟩, hr, htext, rfl⟩
    simp [readOutput, Backend.succeed, hr, htext, bind, Except.bind, pure, Except.pure]
  · intro h
    obtain ⟨r', hr', h⟩ := exists_of_bind_ok h
    obtain ⟨output, htext, hes⟩ := exists_of_bind_ok h
    obtain ⟨hr, rfl⟩ := succeed_eq_ok_iff.mp hr'
    exact ⟨r, output, rfl, hr, htext, (Except.ok.inj hes).symm⟩

theorem not_executed_singleton (r : Reply) (es : List Log.Entry) : ¬Executed [r] es := by
  rintro ⟨r', output, hr, -⟩
  cases hr

/-- What comes after the plan: its script is handed over, whatever it skips. -/
theorem episode_upload {b : Backend} (hb : backend s (some token) = .ok b) {r : Reply} {p : Plan}
    (hp : Planned (r :: replies) p) {a : Address} {hs : List (String × String)}
    (ha : s.Reaches token "TestPlan" [("testCaseId", testCase)] a) :
    let upload := ask (b.executeScript testCase (Script.ofPlan p) kind) fun entries =>
      printAll (entries.map (entryLine clock)) (.exit (exitCode (!entries.any (·.isError))))
    let t := (warnSkipped p upload).trace ⟨files, .server replies peer, time⟩
    Episode clock s testCase kind token (r :: replies) (⟨.get, a, hs, none⟩ :: t.requests)
      t.out t.code := by
  intro upload t
  let u := scriptFile testCase (Script.ofPlan p)
  have ht : t = (warnSkipped p upload).trace ⟨files, .server replies peer, time⟩ := rfl
  rw [warnSkipped, trace_warnAll] at ht
  have hexchange : b.executeScript testCase (Script.ofPlan p) kind =
    b.exchangeWith "ExecuteCode" [("script_type", kind.name)] .post (some u) readOutput := rfl
  rw [ht]
  simp only [upload, hexchange]
  obtain ⟨a', ha', hx⟩ | ⟨hnone, e, hx⟩ := Backend.exchangeWith_cases hb "ExecuteCode"
    [("script_type", kind.name)] .post (some u) readOutput
  · rw [hx]
    cases replies with
    | nil =>
      obtain ⟨err, hanswer⟩ := trace_ask_unanswered peer files time
        ⟨⟨.post, a', b.headers, some u⟩, readOutput⟩ _
      rw [hanswer]
      exact .unexecuted ha hp ha' (not_executed_singleton r)
    | cons r' replies =>
      cases hread : readOutput r' with
      | ok es =>
        rw [trace_ask_ok replies peer files time
          ⟨⟨.post, a', b.headers, some u⟩, readOutput⟩ _ hread, trace_printAll]
        simpa [trace] using Episode.executed ha hp ha' (executed_cons_cons_iff.mpr hread)
      | error e =>
        obtain ⟨err, hanswer⟩ := trace_ask_error replies peer files time
          ⟨⟨.post, a', b.headers, some u⟩, readOutput⟩ _ hread
        rw [hanswer]
        refine .unexecuted ha hp ha' fun es hes => ?_
        cases hread.symm.trans (executed_cons_cons_iff.mp hes)
  · rw [hx]
    exact .unposted ha hp hnone

/-- Every execution is one of the episodes. -/
theorem episode_execute :
    let t := (execute clock s testCase kind token).trace ⟨files, .server replies peer, time⟩
    Episode clock s testCase kind token replies t.requests t.out t.code := by
  rw [execute]
  cases hb : backend s (some token) with
  | error e =>
    refine .unasked fun a ha => ?_
    obtain ⟨b, hb'⟩ := Backend.exists_backend_of_reaches ha
    cases hb.symm.trans hb'
  | ok b =>
    have hexchange : b.fetchPlan testCase =
      b.exchangeWith "TestPlan" [("testCaseId", testCase)] .get none readPlan := rfl
    rw [require, hexchange]
    obtain ⟨a, ha, hx⟩ | ⟨hnone, e, hx⟩ := Backend.exchangeWith_cases hb "TestPlan"
      [("testCaseId", testCase)] .get none readPlan
    · rw [hx]
      cases replies with
      | nil =>
        obtain ⟨err, hanswer⟩ := trace_ask_unanswered peer files time
          ⟨⟨.get, a, b.headers, none⟩, readPlan⟩ _
        rw [hanswer]
        exact .unplanned ha not_planned_nil
      | cons r replies =>
        cases hread : readPlan r with
        | ok p =>
          rw [trace_ask_ok replies peer files time
            ⟨⟨.get, a, b.headers, none⟩, readPlan⟩ _ hread]
          exact episode_upload clock s testCase kind token replies peer files time hb
            (planned_cons_iff.mpr hread) ha
        | error e =>
          obtain ⟨err, hanswer⟩ := trace_ask_error replies peer files time
            ⟨⟨.get, a, b.headers, none⟩, readPlan⟩ _ hread
          rw [hanswer]
          refine .unplanned ha fun p hp => ?_
          cases hread.symm.trans (planned_cons_iff.mp hp)
    · rw [hx]
      exact .unasked hnone

end Episodes

section Accounts

variable {clock : String} {s : Settings} {testCase : String} {kind : ScriptKind} {token : String}
  {replies : List Reply} {qs : List Request} {out : String} {c : Nat}

theorem Executed.unique {es es' : List Log.Entry} (h : Executed replies es)
    (h' : Executed replies es') : es = es' := by
  obtain ⟨r, output, hr, -, htext, rfl⟩ := h
  obtain ⟨r', output', hr', -, htext', rfl⟩ := h'
  obtain rfl : r = r' := Option.some.inj (hr.symm.trans hr')
  rw [Except.ok.inj (htext.symm.trans htext')]

/-- Lines of an output have no time of their own; the clock's is shown with them. -/
theorem Executed.map_entryLine {es : List Log.Entry} (h : Executed replies es) :
    es.map (entryLine clock) = es.map fun e =>
      clock ++ " [" ++ Text.padLeft 9 e.status.text ++ "] " ++ e.message ++ "\n" := by
  obtain ⟨r, output, -, -, -, rfl⟩ := h
  refine List.map_congr_left fun e he => ?_
  obtain ⟨line, -, rfl⟩ := List.mem_map.mp he
  simp [entryLine, Log.Entry.line, Output.entryOf, Log.Entry.ofNow, Log.Stamp.text]

variable (h : Episode clock s testCase kind token replies qs out c)
include h

theorem Episode.requests_prefix :
    qs.map (fun q => (q.method, (.ok q.address : Except Problem Address))) <+:
      [(.get, s.address "TestPlan" [("testCaseId", testCase)]),
        (.post, s.address "ExecuteCode" [("script_type", kind.name)])] := by
  cases h with
  | unasked => exact List.nil_prefix
  | unplanned ha | unposted ha => simp [ha.address]
  | unexecuted ha hp ha' | executed ha hp ha' => simp [ha.address, ha'.address]

theorem Episode.upload_eq {q : Request} (hq : q ∈ qs) (hpost : q.method = .post) :
    ∃ p, Planned replies p ∧ q.upload = some (scriptFile testCase (Script.ofPlan p)) := by
  cases h with
  | unasked => cases hq
  | unplanned | unposted =>
    rw [List.mem_singleton.mp hq] at hpost
    cases hpost
  | unexecuted ha hp | executed ha hp =>
    obtain rfl | rfl := List.mem_pair.mp hq
    · cases hpost
    · exact ⟨_, hp, rfl⟩

theorem Episode.posts_iff :
    (∃ q ∈ qs, q.method = .post) ↔ (∃ p, Planned replies p) ∧
      (∃ a, s.Reaches token "TestPlan" [("testCaseId", testCase)] a) ∧
      ∃ a, s.Reaches token "ExecuteCode" [("script_type", kind.name)] a := by
  cases h with
  | unasked h => simp [h]
  | unplanned ha h => simp [h]
  | unposted ha hp h => simp [h]
  | unexecuted ha hp ha' | executed ha hp ha' =>
    exact iff_of_true (by simp) ⟨⟨_, hp⟩, ⟨_, ha⟩, ⟨_, ha'⟩⟩

/-- Either an output came, which is printed and judged, or nothing is printed and the execution
fails. -/
theorem Episode.shown :
    (∃ es, (∃ q ∈ qs, q.method = .post) ∧ Executed replies es ∧
      out = String.join (es.map (entryLine clock)) ∧
        (c = 0 ↔ ∀ e ∈ es, e.isError = false)) ∨
    (∀ es, ¬((∃ q ∈ qs, q.method = .post) ∧ Executed replies es)) ∧ out = "" ∧ c = 1 := by
  cases h with
  | unasked | unplanned | unposted => exact .inr ⟨by simp, rfl, rfl⟩
  | unexecuted ha hp ha' h => exact .inr ⟨fun es hes => h es hes.2, rfl, rfl⟩
  | executed ha hp ha' hes =>
    refine .inl ⟨_, by simp, hes, rfl, ?_⟩
    rw [exitCode_eq_zero]
    simp

end Accounts

/-- An execution makes at most two requests, one for the plan and then one that hands over its
script. The script is handed over just if a plan came and both endpoints can be reached, whatever
steps the plan holds. The entries of the output that comes back are all that is printed, and the
exit code is that of success just if there is an output and no entry of it is an error. -/
theorem execution_of_answers [Json.Wording] (clock : String) (s : Settings) (testCase : String)
    (kind : Option ScriptKind) (token : String) (replies : List Reply) (peer : Socket.Peer)
    (files : Files) (time : Nat) :
    let t := (ofCommand clock s (.execute testCase kind token)).trace
      ⟨files, .server replies peer, time⟩
    let plan := [("testCaseId", testCase)]
    let code := [("script_type", (kind.getD s.run.scriptKind).name)]
    let posted := ∃ q ∈ t.requests, q.method = .post
    t.requests.map (fun q => (q.method, (.ok q.address : Except Problem Address))) <+:
      [(.get, s.address "TestPlan" plan), (.post, s.address "ExecuteCode" code)] ∧
    (∀ q ∈ t.requests, q.method = .post → ∃ p, Planned replies p ∧
      q.upload = some ⟨testCase ++ "_script.py", "text/x-python", Script.ofPlan p⟩) ∧
    (posted ↔ (∃ p, Planned replies p) ∧ (∃ a, s.Reaches token "TestPlan" plan a) ∧
      ∃ a, s.Reaches token "ExecuteCode" code a) ∧
    (∀ p : Plan, Script.ofPlan { p with steps := p.steps.filter Script.isRecognized } =
      Script.ofPlan p) ∧
    (∀ es, posted → Executed replies es → t.out = String.join (es.map fun e =>
      clock ++ " [" ++ Text.padLeft 9 e.status.text ++ "] " ++ e.message ++ "\n")) ∧
    ((∀ es, ¬(posted ∧ Executed replies es)) → t.out = "") ∧
    (t.code = 0 ↔ ∃ es, posted ∧ Executed replies es ∧ ∀ e ∈ es, e.isError = false) := by
  intro t plan code posted
  have h : Episode clock s testCase (kind.getD s.run.scriptKind) token replies t.requests
    t.out t.code := episode_execute clock s testCase _ token replies peer files time
  refine ⟨h.requests_prefix, fun q hq hpost => h.upload_eq hq hpost, h.posts_iff,
    Script.ofPlan_recognized, ?_⟩
  obtain ⟨es, hposted, hes, hout, hcode⟩ | ⟨hnone, hout, hcode⟩ := h.shown
  · refine ⟨fun es' _ hes' => ?_, fun hno => absurd ⟨hposted, hes⟩ (hno es), ?_⟩
    · rw [hout, hes.map_entryLine, hes.unique hes']
    rw [hcode]
    refine ⟨fun hclean => ⟨es, hposted, hes, hclean⟩, ?_⟩
    rintro ⟨es', -, hes', hclean⟩
    rwa [hes.unique hes']
  · refine ⟨fun es hposted hes => absurd ⟨hposted, hes⟩ (hnone es), fun _ => hout, ?_⟩
    rw [hcode]
    refine iff_of_false (by decide) ?_
    rintro ⟨es, hposted, hes, -⟩
    exact hnone es ⟨hposted, hes⟩

end Answers

/-- A plan of which no step is recognized is executed all the same. -/
theorem execution_of_answers_unrecognized :
    let answer (text : String) : Reply := ⟨200, none, .whole (Text.Utf8.encode text.toList)⟩
    let replies := [answer "\x7b\"current_bdd_steps\": \x7b\"When the moon is full\": null\x7d\x7d",
      answer "Test Passed\n"]
    let t := (ofCommand "12:00" {} (.execute "TC 1" none "secret")).trace
      ⟨{ entries := [] }, .server replies .unreachable, 0⟩
    t.requests.map (fun q => (q.method, q.address.text)) =
      [(.get, "http://127.0.0.1:8002/testplan/TC%201"),
        (.post, "http://127.0.0.1:8002/execute-code?script_type=playwright")] ∧
      Executed replies [.ofNow .success "Test Passed"] ∧
      t.out = "12:00 [  SUCCESS] Test Passed\n" ∧ t.code = 0 := by
  intro answer replies t
  have hrequests : t.requests.map (fun q => (q.method, q.address.text)) =
      [(.get, "http://127.0.0.1:8002/testplan/TC%201"),
        (.post, "http://127.0.0.1:8002/execute-code?script_type=playwright")] := by
    decide +kernel
  have hes : Executed replies [.ofNow .success "Test Passed"] :=
    ⟨answer "Test Passed\n", "Test Passed\n", rfl, rfl, by decide +kernel, by decide +kernel⟩
  have hposted : ∃ q ∈ t.requests, q.method = .post := by decide +kernel
  obtain ⟨-, -, -, -, hout, -, hcode⟩ := execution_of_answers "12:00" {} "TC 1" none "secret"
    replies .unreachable { entries := [] } 0
  refine ⟨hrequests, hes, ?_, hcode.mpr ⟨_, hposted, hes, by decide⟩⟩
  rw [hout _ hposted hes]
  decide +kernel

end Procedure

end Testbed
