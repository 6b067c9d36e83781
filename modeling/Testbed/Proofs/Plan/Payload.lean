import Testbed.Backend
import Testbed.Proofs.Json.Record

/-!
# The payload of a test plan

A plan arrives as an object that names its test case and holds its steps, each of the two under one
of two names, among whatever else. It is read as just these steps, in their order and with their
repeats, and it is refused if it uses two names for one field.
-/

namespace Testbed.Plan

open Json

def members (steps : List Step) : List (String × Json) :=
  steps.map fun s => (s.phrase, .string (some s.data))

inductive IsSteps : Option Json → List Step → Prop where
  | absent : IsSteps none []
  | null : IsSteps (some .null) []
  | object (steps : List Step) : IsSteps (some (.object (named (members steps)) true)) steps

/-- An object for a plan: each field is given at most once, under one of its names. -/
inductive IsPayload (p : Plan) : Json → Prop where
  | members (ms : List (String × Json)) {testCase steps : Option Json}
    (htestCase : given testCaseNames ms = testCase.toList)
    (hsteps : given stepsNames ms = steps.toList)
    (hcase : IsOptional testCase p.testCase) (hlist : IsSteps steps p.steps) :
    IsPayload p (.object (named ms) true)

section Reading

variable {p : Plan}

/-- The steps are read one after the other, whatever was read before them. -/
theorem foldMembers_members (steps before : List Step) :
    foldMembers readSteps true before (named (members steps)) = .ok (before ++ steps) := by
  induction steps generalizing before with
  | nil => rw [List.append_nil]; rfl
  | cons s steps ih =>
    have hread : readSteps before s.phrase (.string (some s.data)) = .ok (before ++ [s]) := rfl
    rw [members, List.map_cons, named, List.map_cons, foldMembers_cons, hread, ← named, ← members]
    exact (ih _).trans (by rw [List.append_assoc, List.singleton_append])

theorem reads_stepsOf {x : Option Json} {steps : List Step} (h : IsSteps x steps) :
    Reads stepsOf [] x steps := by
  cases h with
  | absent => rfl
  | null => rfl
  | object => exact foldMembers_members steps []

structure Fields.Awaits (f g : Fields) (ms : List (String × Json)) : Prop where
  testCase : Pending optionalString f.testCase (given testCaseNames ms) g.testCase
  steps : Pending stepsOf f.steps (given stepsNames ms) g.steps
  intact : ∀ m ∈ ms, m.2.intact = true

theorem notMem_stepsNames {key : String} (h : key ∈ testCaseNames) : key ∉ stepsNames := by
  simp only [testCaseNames, List.mem_cons, List.not_mem_nil, or_false] at h
  obtain rfl | rfl := h <;> decide

theorem notMem_testCaseNames {key : String} (h : key ∈ stepsNames) : key ∉ testCaseNames :=
  fun hcase => notMem_stepsNames hcase h

theorem Fields.Awaits.step {f g : Fields} {key : String} {j : Json} {ms : List (String × Json)}
    (h : f.Awaits g ((key, j) :: ms)) : ∃ f', readField f key j = .ok f' ∧ f'.Awaits g ms := by
  obtain ⟨htestCase, hsteps, hintact⟩ := h
  obtain ⟨hj, hms⟩ := List.forall_mem_cons.mp hintact
  by_cases hcase : key ∈ testCaseNames
  · obtain ⟨hnone, v, hv, hrest⟩ := htestCase.fill hcase
    exact ⟨{ f with testCase := some v }, by simp [readField, hcase, hnone, hv], hrest,
      hsteps.skip (notMem_stepsNames hcase), hms⟩
  by_cases hkey : key ∈ stepsNames
  · obtain ⟨hnone, v, hv, hrest⟩ := hsteps.fill hkey
    exact ⟨{ f with steps := some v }, by simp [readField, hcase, hkey, hnone, hv],
      htestCase.skip hcase, hrest, hms⟩
  · exact ⟨f, by simp [readField, hcase, hkey, ignored, hj], htestCase.skip hcase,
      hsteps.skip hkey, hms⟩

theorem Fields.Awaits.eq {f g : Fields} (h : f.Awaits g []) : f = g := by
  obtain ⟨htestCase, hsteps, -⟩ := h
  cases f
  cases g
  cases htestCase
  cases hsteps
  rfl

theorem ofJson_members {testCase : Option String} {list : List Step}
    {ms : List (String × Json)} {x y : Option Json} (hx : given testCaseNames ms = x.toList)
    (hy : given stepsNames ms = y.toList) (hcase : Reads optionalString none x testCase)
    (hlist : Reads stepsOf [] y list) (hms : ∀ m ∈ ms, m.2.intact = true) :
    ofJson (.object (named ms) true) = .ok ⟨testCase, list⟩ := by
  let g : Fields := ⟨x.map fun _ => testCase, y.map fun _ => list⟩
  have hstart : Fields.Awaits {} g ms := by
    refine ⟨?_, ?_, hms⟩
    · rw [hx]
      exact hcase.pending
    · rw [hy]
      exact hlist.pending
  have hfold : foldMembers readField true {} (named ms) = .ok g :=
    foldMembers_eq_ok (Φ := fun f ms => f.Awaits g ms) Fields.Awaits.step Fields.Awaits.eq hstart
  have hplan : g.plan = ⟨testCase, list⟩ := by
    simp only [g, Fields.plan, hcase.getD_eq, hlist.getD_eq]
  rw [ofJson, hfold, ← hplan]
  rfl

/-- Every object for a plan is read as that plan. -/
theorem ofJson_of_isPayload {j : Json} (h : p.IsPayload j) (hj : j.intact = true) :
    ofJson j = .ok p := by
  obtain @⟨ms, testCase, steps, htestCase, hsteps, hcase, hlist⟩ := h
  exact ofJson_members htestCase hsteps (reads_optionalString hcase) (reads_stepsOf hlist)
    (intact_of_mem_named (by simpa [Json.intact] using hj))

end Reading

section Refusing

theorem readsOnce_testCase :
    ReadsOnce readField testCaseNames (·.testCase.isSome = true) where
  refused hkey h j := by
    rw [readField, if_pos hkey, if_pos h]
    exact gives_error _
  marked hkey f j := by
    rw [readField, if_pos hkey]
    exact gives_ite (gives_error _) (gives_after fun _ => gives_pure rfl)
  kept h key j := by
    unfold readField
    refine gives_ite (gives_ite (gives_error _) (gives_after fun _ => gives_pure rfl)) ?_
    exact gives_ite (gives_ite (gives_error _) (gives_after fun _ => gives_pure h))
      (gives_after fun _ => gives_pure h)

theorem readsOnce_steps : ReadsOnce readField stepsNames (·.steps.isSome = true) where
  refused hkey h j := by
    rw [readField, if_neg (notMem_testCaseNames hkey), if_pos hkey, if_pos h]
    exact gives_error _
  marked hkey f j := by
    rw [readField, if_neg (notMem_testCaseNames hkey), if_pos hkey]
    exact gives_ite (gives_error _) (gives_after fun _ => gives_pure rfl)
  kept h key j := by
    unfold readField
    refine gives_ite (gives_ite (gives_error _) (gives_after fun _ => gives_pure h)) ?_
    exact gives_ite (gives_ite (gives_error _) (gives_after fun _ => gives_pure rfl))
      (gives_after fun _ => gives_pure h)

theorem gives_of_twice {names : List String} (hnames : names ∈ [testCaseNames, stepsNames])
    {key key' : String} (hkey : key ∈ names) (hkey' : key' ∈ names) {x y : Json}
    {members : List (Option String × Json)}
    (h : [(some key, x), (some key', y)].Sublist members) (closed : Bool) :
    Gives (ofJson (.object members closed)) fun _ => False := by
  have hfold : Gives (foldMembers readField closed {} members) fun _ => False := by
    obtain rfl | rfl : names = testCaseNames ∨ names = stepsNames := by simpa using hnames
    · exact readsOnce_testCase.gives_foldMembers hkey hkey' h closed {}
    · exact readsOnce_steps.gives_foldMembers hkey hkey' h closed {}
  exact gives_bind hfold fun _ hno => hno.elim

end Refusing

section Texts

variable [Wording]

theorem ofText_eq {j : Json} {s : String} (h : IsText j s.toList) :
    ofText s = (ofJson j).mapError fun f => .json (f.told "TestPlan" s) := by
  rw [ofText, readText_eq h]
  cases ofJson j <;> rfl

theorem planOfBytes_encode (s : String) :
    Backend.planOfBytes (Text.Utf8.encode s.toList) = ofText s := by
  have hbytes : readBytes ofJson (Text.Utf8.encode s.toList) = readText ofJson s := by
    rw [readBytes, ofBytes_encode, readText]
  cases hread : readText ofJson s <;> simp [Backend.planOfBytes, ofText, hbytes, hread, Fault.told]

/-- A plan is read back from every payload that holds it: from the payload as a text and from its
bytes. A payload that gives a field twice, by one of its names or by both, is refused. -/
theorem payload_of_plan :
    (∀ (p : Plan) (j : Json) (s : String), p.IsPayload j → IsText j s.toList →
      ofText s = .ok p ∧ Backend.planOfBytes (Text.Utf8.encode s.toList) = .ok p) ∧
    ∀ names ∈ [testCaseNames, stepsNames], ∀ key ∈ names, ∀ key' ∈ names,
      ∀ (x y : Json) (members : List (Option String × Json)) (s : String),
        [(some key, x), (some key', y)].Sublist members →
        IsText (.object members true) s.toList →
        ∃ e, ofText s = .error e ∧
          Backend.planOfBytes (Text.Utf8.encode s.toList) = .error e := by
  refine ⟨fun p j s h hs => ?_, fun names hnames key hkey key' hkey' x y members s h hs => ?_⟩
  · have hread : ofText s = .ok p := by
      rw [ofText_eq hs, ofJson_of_isPayload h hs.intact]
      rfl
    exact ⟨hread, by rw [planOfBytes_encode, hread]⟩
  · obtain ⟨f, hf⟩ := exists_error_of_gives (gives_of_twice hnames hkey hkey' h true)
    obtain ⟨e, hread⟩ : ∃ e, ofText s = .error e := ⟨_, by rw [ofText_eq hs, hf]; rfl⟩
    exact ⟨e, hread, by rw [planOfBytes_encode, hread]⟩

end Texts

/-- Bytes that are no text do not matter in a member that is skipped. -/
example :
    let payload (key : String) : List UInt8 :=
      Text.Utf8.encode ("\x7b\"" ++ key ++ "\":\"").toList ++
        0xFF :: Text.Utf8.encode "\",\"current_bdd_steps\":\x7b\x7d\x7d".toList
    (Backend.planOfBytes (payload "x")).toOption = some ⟨none, []⟩ ∧
      (Backend.planOfBytes (payload "current_testid")).toOption = none := by
  decide +kernel

/-- A step that is taken twice, and a payload with both names of the test case. -/
theorem payload_of_plan_repeatedStep :
    let p : Plan := ⟨some "TC1", [⟨"Click", "a"⟩, ⟨"Click", "b"⟩]⟩
    let j : Json := .object [(some "x", .null),
      (some "current_bdd_steps", .object (named (members p.steps)) true),
      (some "current testid", .string (some "TC1"))] true
    let s := "\x7b\"x\":null,\"current_bdd_steps\":\x7b\"Click\":\"a\",\"Click\":\"b\"\x7d," ++
      "\"current testid\":\"TC1\"\x7d"
    let both := [(some "current testid", Json.null), (some "current_testid", Json.null)]
    let s' := "\x7b\"current testid\":null,\"current_testid\":null\x7d"
    p.IsPayload j ∧ IsText j s.toList ∧ ofText s = .ok p ∧
      IsText (.object both true) s'.toList ∧ ∃ e, ofText s' = .error e := by
  intro p j s both s'
  have hgap : IsGap [] := by simp [IsGap]
  have hpayload : p.IsPayload j :=
    .members [("x", .null), ("current_bdd_steps", .object (named (members p.steps)) true),
      ("current testid", .string (some "TC1"))] rfl rfl (.text "TC1") (.object p.steps)
  have htext : IsText j s.toList := by
    have h := IsText.object (.cons hgap (isString_quote "x") hgap .null
      (.cons hgap (isString_quote "current_bdd_steps") hgap
        (.object (.cons hgap (isString_quote "Click") hgap (.string (isString_quote "a"))
          (.last hgap (isString_quote "Click") hgap (.string (isString_quote "b")))))
        (.last hgap (isString_quote "current testid") hgap (.string (isString_quote "TC1")))))
    exact Eq.subst (motive := IsText j) (by decide +kernel) h
  have hboth : IsText (.object both true) s'.toList := by
    have h := IsText.object (.cons hgap (isString_quote "current testid") hgap .null
      (.last hgap (isString_quote "current_testid") hgap .null))
    exact Eq.subst (motive := IsText (.object both true)) (by decide +kernel) h
  obtain ⟨hread, -⟩ := payload_of_plan.1 p j s hpayload htext
  obtain ⟨e, he, -⟩ := payload_of_plan.2 testCaseNames (by decide) "current testid" (by decide)
    "current_testid" (by decide) .null .null both s' (.refl both) hboth
  exact ⟨hpayload, htext, hread, hboth, e, he⟩

end Testbed.Plan
