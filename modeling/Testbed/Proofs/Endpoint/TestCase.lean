import Testbed.Proofs.Endpoint.Target

/-!
# Addresses of test cases

The stream and the plan of a test case are below the base of the resolver, on its host and port. The
identifier names the place there, and what it holds leads nowhere else, but for the identifiers of
one and of two dots. Different streams have different addresses, and so have different plans unless
one identifier is empty and the other one is a dot.
-/

namespace Testbed

open Address (IsBase IsData IsPlain addPieces keepsInQuery keptPort queryChars splitScheme)
open Resolver (streamScheme)
open Text (cut)

namespace Address

structure IsAt (a base : Address) (scheme place : String) (query : Option String) : Prop where
  scheme : a.scheme = scheme
  username : a.username = base.username
  password : a.password = base.password
  host : a.host = base.host
  port : a.port = base.port
  path : a.path.text = base.path.text ++ place
  query : a.query = query
  fragment : a.fragment = none

/-- A way of data and slashes that leads from any base to a place below it. -/
structure IsWay (way place : String) (query : Option String) : Prop where
  data : ∀ c ∈ way.toList, IsData c ∨ c = '/'
  first : ∃ c r, way.toList = c :: r ∧ IsData c
  kept : ∀ q ∈ query, ∀ c ∈ q.toList, keepsInQuery true c = true
  relative : splitScheme (way.toList ++ queryChars (query.map String.toList)) = none
  leads : ∀ ss, (Path.segments (addPieces false ss (cut '/' way.toList))).text =
    (Path.segments (ss ++ [""])).text ++ place

theorem IsWay.mark_not_mem {way place : String} {query : Option String}
    (h : IsWay way place query) : '?' ∉ way.toList :=
  fun hmem => (h.data '?' hmem).elim (fun hdata => hdata.ne.2.2.1 rfl) (by decide)

section Ways

variable {base a a' : Address} {way place place' scheme key : String}
  {query query' : Option String} {params : List (String × String)}

/-- A way from a base can be gone. -/
theorem IsBase.exists_join (h : base.IsBase) (hway : IsWay way place query) :
    ∃ a, base.join (String.ofList (way.toList ++ queryChars (query.map String.toList))) = .ok a ∧
      a.IsAt base base.scheme place query := by
  obtain ⟨ss, hpath⟩ := h.path
  have hkept : ∀ q ∈ query.map String.toList, ∀ c ∈ q, keepsInQuery true c = true := by
    simpa using hway.kept
  refine ⟨_, join_data hpath (isSpecialScheme_of_web h.web).1 hway.data hway.first hkept
    hway.relative, rfl, rfl, rfl, rfl, rfl, ?_, ?_, rfl⟩
  · rw [List.dropLast_concat, hpath]
    exact hway.leads ss
  · cases query <;> simp

theorem IsBase.exists_withScheme (h : base.IsBase) (ha : a.IsAt base base.scheme place query) :
    ∃ b, a.withScheme? (streamScheme a.scheme) = some b ∧
      b.IsAt base (streamScheme base.scheme) place query := by
  have hspecial := (isSpecialScheme_of_web h.web).1
  have hstream := isSpecialScheme_streamScheme base.scheme
  have hhost : a.hasHost = true := by simpa only [hasHost, ha.host] using h.host
  have hport : keptPort (streamScheme base.scheme) a.port = base.port := by
    rw [keptPort, defaultPort_streamScheme h.web, ha.port]
    exact h.port.symm
  refine ⟨{ a with scheme := streamScheme base.scheme, port := base.port }, ?_,
    rfl, ha.username, ha.password, ha.host, rfl, ha.path, ha.query, ha.fragment⟩
  rw [withScheme?, isSpecial, ha.scheme, hspecial, hstream, hhost, hport]
  rfl

theorem exists_httpAddress {r : Resolver} (h : r.base.IsBase) (hway : IsWay way place query)
    (htarget : r.resolve key params =
      String.ofList (way.toList ++ queryChars (query.map String.toList))) :
    ∃ a, r.httpAddress key params = .ok a ∧ a.IsAt r.base r.base.scheme place query := by
  obtain ⟨a, hjoin, ha⟩ := h.exists_join hway
  refine ⟨a, ?_, ha⟩
  rw [Resolver.httpAddress, htarget, hjoin]

theorem exists_streamAddress {r : Resolver} (h : r.base.IsBase) (hway : IsWay way place query)
    (htarget : r.resolve key params =
      String.ofList (way.toList ++ queryChars (query.map String.toList))) :
    ∃ a, r.streamAddress key params = .ok a ∧
      a.IsAt r.base (streamScheme r.base.scheme) place query := by
  obtain ⟨a, hhttp, ha⟩ := exists_httpAddress h hway htarget
  obtain ⟨b, hscheme, hb⟩ := h.exists_withScheme ha
  refine ⟨b, ?_, hb⟩
  rw [Resolver.streamAddress, hhttp]
  simp only [bind, Except.bind, hscheme]

theorem IsAt.toList_text (ha : a.IsAt base scheme place query) {host : Host}
    (hhost : base.host = some host) :
    a.text.toList = (scheme ++ ":" ++ ("//" ++ base.credentials ++ base.authority host) ++
      base.path.text).toList ++ (place.toList ++ queryChars (query.map String.toList)) := by
  simp only [text, credentials, authority, ha.scheme, ha.username, ha.password, ha.host, ha.port,
    ha.path, ha.query, ha.fragment, hhost]
  cases query <;> simp [queryChars]

theorem append_queryChars_inj {s s' : List Char} {q q' : Option (List Char)} (hs : '?' ∉ s)
    (hs' : '?' ∉ s') (h : s ++ queryChars q = s' ++ queryChars q') : s = s' ∧ q = q' := by
  have hsplit := congrArg (Text.splitOnce '?') h
  rw [splitOnce_queryChars hs, splitOnce_queryChars hs'] at hsplit
  cases q <;> cases q' <;> simp_all [queryChars]

/-- Below one base, addresses of one text are at one place with one query. -/
theorem IsBase.eq_of_text_eq (h : base.IsBase) (ha : a.IsAt base scheme place query)
    (ha' : a'.IsAt base scheme place' query') (hplace : '?' ∉ place.toList)
    (hplace' : '?' ∉ place'.toList) (htext : a.text = a'.text) :
    place = place' ∧ query = query' := by
  obtain ⟨host, hhost⟩ : ∃ host, base.host = some host := by
    cases hnone : base.host with
    | none => simpa [hasHost, hnone] using h.host
    | some host => exact ⟨host, rfl⟩
  have hchars := congrArg String.toList htext
  rw [ha.toList_text hhost, ha'.toList_text hhost, List.append_cancel_left_eq] at hchars
  obtain ⟨hp, hq⟩ := append_queryChars_inj hplace hplace' hchars
  exact ⟨String.toList_inj.mp hp, Option.map_injective (fun _ _ => String.toList_inj.mp) hq⟩

end Ways

end Address

section TestCases

variable (id : String) (kind : ScriptKind)

open Address (IsWay)

theorem isWay_stream : IsWay (streamWay id) (streamPlace id) (some (streamQuery kind)) where
  data := by
    simp only [toList_streamWay, List.mem_append, List.mem_cons]
    rintro c (hc | rfl | hc | rfl | hc)
    · exact .inl (isWord_testcases.data c hc)
    · exact .inr rfl
    · exact .inl (Template.isData_of_mem_encodedValue hc)
    · exact .inr rfl
    · exact .inl (isWord_stream.data c hc)
  first := ⟨'t', _, toList_streamWay id, by decide⟩
  kept := by
    intro q hq
    obtain rfl := Option.some.inj hq
    refine List.all_eq_true.mp ?_
    cases kind <;> decide
  -- the first slash comes before any colon could end a scheme
  relative := by
    rw [toList_streamWay]
    rfl
  leads := fun ss => text_streamWay ss id

theorem isWay_plan : IsWay (planWay id) (planPlace id) none where
  data := by
    simp only [toList_planWay, List.mem_append, List.mem_cons]
    rintro c (hc | rfl | hc)
    · exact .inl (isWord_testplan.data c hc)
    · exact .inr rfl
    · exact .inl (Template.isData_of_mem_encodedValue hc)
  first := ⟨'t', _, toList_planWay id, by decide⟩
  kept := by simp
  relative := by
    rw [toList_planWay]
    rfl
  leads := fun ss => text_planWay ss id

theorem mark_not_mem_streamPlace : '?' ∉ (streamPlace id).toList := by
  unfold streamPlace
  split_ifs
  · decide
  · decide
  · exact (isWay_stream id .selenium).mark_not_mem

theorem mark_not_mem_planPlace : '?' ∉ (planPlace id).toList := by
  unfold planPlace
  split_ifs
  · decide
  · decide
  · exact (isWay_plan id).mark_not_mem

variable {kind}

theorem streamQuery_injective : Function.Injective streamQuery := by
  intro kind kind' h
  cases kind <;> cases kind' <;> first | rfl | exact absurd h (by decide)

theorem template?_default :
    EndpointTable.default.template? "ExecuteWs" =
        some "testcases/\x7btestCaseId\x7d/execute-ws?script_type=\x7bscript_type\x7d" ∧
      EndpointTable.default.template? "TestPlan" = some "testplan/\x7btestCaseId\x7d" := by
  decide +kernel

variable {r : Resolver} (htable : r.table = .default)
include htable

theorem resolve_stream (kind : ScriptKind) :
    r.resolve "ExecuteWs" [("testCaseId", id), ("script_type", kind.name)] =
      String.ofList ((streamWay id).toList ++
        queryChars ((some (streamQuery kind)).map String.toList)) := by
  rw [Resolver.resolve, htable, template?_default.1]
  exact fillAll_stream id kind

theorem resolve_plan : r.resolve "TestPlan" [("testCaseId", id)] =
    String.ofList ((planWay id).toList ++
      queryChars ((none : Option String).map String.toList)) := by
  rw [Resolver.resolve, htable, template?_default.2]
  exact fillAll_plan id

end TestCases

/-- Every test case has an address for its stream and one for its plan, below the base at the place
that its identifier names, and the addresses tell the test cases apart. An identifier of one or two
dots is a step in the path, so that only an empty identifier and a dot share a plan. -/
theorem testCase_addresses {base : String} {r : Resolver}
    (h : Resolver.ofBase .default base = .ok r) (hplain : IsPlain base.toList) :
    (∀ id kind, ∃ a, r.streamAddress "ExecuteWs"
        [("testCaseId", id), ("script_type", kind.name)] = .ok a ∧
      a.IsAt r.base (streamScheme r.base.scheme) (streamPlace id) (some (streamQuery kind))) ∧
    (∀ id, ∃ a, r.httpAddress "TestPlan" [("testCaseId", id)] = .ok a ∧
      a.IsAt r.base r.base.scheme (planPlace id) none) ∧
    (∀ (id id' : String) (kind kind' : ScriptKind) (a a' : Address),
      r.streamAddress "ExecuteWs" [("testCaseId", id), ("script_type", kind.name)] = .ok a →
      r.streamAddress "ExecuteWs" [("testCaseId", id'), ("script_type", kind'.name)] = .ok a' →
      a.text = a'.text → id = id' ∧ kind = kind') ∧
    ∀ (id id' : String) (a a' : Address),
      r.httpAddress "TestPlan" [("testCaseId", id)] = .ok a →
      r.httpAddress "TestPlan" [("testCaseId", id')] = .ok a' → a.text = a'.text →
      id = id' ∨ id = "" ∧ id' = "." ∨ id = "." ∧ id' = "" := by
  have hbase := Resolver.isBase_of_ofBase h hplain
  obtain ⟨b, -, hr⟩ := Resolver.exists_of_ofBase h
  have htable : r.table = .default := congrArg Resolver.table hr
  have hstream (id : String) (kind : ScriptKind) :=
    Address.exists_streamAddress hbase (isWay_stream id kind) (resolve_stream id htable kind)
  have hplan (id : String) :=
    Address.exists_httpAddress hbase (isWay_plan id) (resolve_plan id htable)
  refine ⟨hstream, hplan, ?_, ?_⟩
  · intro id id' kind kind' a a' ha ha' htext
    have hat := gives_of_exists (hstream id kind) a ha
    have hat' := gives_of_exists (hstream id' kind') a' ha'
    obtain ⟨hplace, hquery⟩ := hbase.eq_of_text_eq hat hat' (mark_not_mem_streamPlace id)
      (mark_not_mem_streamPlace id') htext
    exact ⟨streamPlace_injective hplace, streamQuery_injective (Option.some.inj hquery)⟩
  · intro id id' a a' ha ha' htext
    have hat := gives_of_exists (hplan id) a ha
    have hat' := gives_of_exists (hplan id') a' ha'
    exact planPlace_eq (hbase.eq_of_text_eq hat hat' (mark_not_mem_planPlace id)
      (mark_not_mem_planPlace id') htext).1

/-- A path in an identifier leads nowhere. -/
theorem testCase_addresses_path :
    ∃ r a a', Resolver.ofBase .default "http://127.0.0.1:8002/api" = .ok r ∧
      IsPlain "http://127.0.0.1:8002/api".toList ∧
      r.streamAddress "ExecuteWs"
        [("testCaseId", "../a?b"), ("script_type", ScriptKind.selenium.name)] = .ok a ∧
      a.IsAt r.base "ws" "testcases/..%2Fa%3Fb/execute-ws" (some "script_type=selenium") ∧
      r.httpAddress "TestPlan" [("testCaseId", "../a?b")] = .ok a' ∧
      a'.IsAt r.base "http" "testplan/..%2Fa%3Fb" none := by
  have hread : (Resolver.ofBase .default "http://127.0.0.1:8002/api").toOption.map (·.base.scheme) =
      some "http" := by decide +kernel
  obtain ⟨r, hr, hscheme⟩ := exists_ok_of_toOption hread
  have hplain : IsPlain "http://127.0.0.1:8002/api".toList := by
    rw [IsPlain]
    decide
  have hplaces : streamPlace "../a?b" = "testcases/..%2Fa%3Fb/execute-ws" ∧
      planPlace "../a?b" = "testplan/..%2Fa%3Fb" := by decide +kernel
  obtain ⟨hstream, hplan, -⟩ := testCase_addresses hr hplain
  obtain ⟨a, ha, hat⟩ := hstream "../a?b" .selenium
  obtain ⟨a', ha', hat'⟩ := hplan "../a?b"
  rw [hscheme, hplaces.1] at hat
  rw [hscheme, hplaces.2] at hat'
  exact ⟨r, a, a', hr, hplain, ha, hat, ha', hat'⟩

/-- Two dots lead from the plans back to the base, and a dot and nothing are the same plan. -/
theorem planAddress_dots :
    ∃ r a a₀ a₁, Resolver.ofBase .default "http://127.0.0.1:8002" = .ok r ∧
      IsPlain "http://127.0.0.1:8002".toList ∧
      r.httpAddress "TestPlan" [("testCaseId", "..")] = .ok a ∧
      a.path.text ≠ r.base.path.text ++ ("testplan/" ++ encodedId "..") ∧
      r.httpAddress "TestPlan" [("testCaseId", "")] = .ok a₀ ∧
      r.httpAddress "TestPlan" [("testCaseId", ".")] = .ok a₁ ∧ a₀.text = a₁.text := by
  have hread : (Resolver.ofBase .default "http://127.0.0.1:8002").toOption.map (fun r =>
      (r.base.path.text, ["..", "", "."].map fun id =>
        (r.httpAddress "TestPlan" [("testCaseId", id)]).toOption.map fun a =>
          (a.path.text, a.text))) =
      some ("/", [some ("/", "http://127.0.0.1:8002/"),
        some ("/testplan/", "http://127.0.0.1:8002/testplan/"),
        some ("/testplan/", "http://127.0.0.1:8002/testplan/")]) := by decide +kernel
  obtain ⟨r, hr, hread⟩ := exists_ok_of_toOption hread
  simp only [List.map_cons, List.map_nil, Prod.mk.injEq, List.cons.injEq, and_true] at hread
  obtain ⟨hbase, htwo, hnone, hone⟩ := hread
  obtain ⟨a, ha, hpath⟩ := exists_ok_of_toOption htwo
  obtain ⟨a₀, ha₀, htext₀⟩ := exists_ok_of_toOption hnone
  obtain ⟨a₁, ha₁, htext₁⟩ := exists_ok_of_toOption hone
  refine ⟨r, a, a₀, a₁, hr, ?_, ha, ?_, ha₀, ha₁, ?_⟩
  · rw [IsPlain]
    decide
  · rw [(Prod.mk.inj hpath).1, hbase]
    decide +kernel
  · exact (Prod.mk.inj htext₀).2.trans (Prod.mk.inj htext₁).2.symm

end Testbed
