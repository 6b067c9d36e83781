import Mathlib.Data.List.Forall2
import Testbed.Proofs.Json.Compact
import Testbed.Proofs.Message.Received
import Testbed.Proofs.Plan.Payload

/-!
# The test data of steps

The steps of a plan are read one after the other, and each has the data of its own value. The data
of an integer, a truth value, an array or an object is the compact text of the value: it does not
depend on how the value is spelled, and it is what it gives as the value of a step.
-/

namespace Testbed.Plan

open Json

def data (j : Json) : Except Fault String := (datum 3 j).map stepData

def IsStepOf (m : String × Json) (s : Step) : Prop := s.phrase = m.1 ∧ data m.2 = .ok s.data

inductive Holds (testCase : Option String) (steps : List (String × Json)) : Json → Prop where
  | members {ms : List (String × Json)} {x : Option Json}
    (htestCase : given testCaseNames ms = x.toList) (hx : IsOptional x testCase)
    (hsteps : given stepsNames ms = [.object (named steps) true]) :
    Holds testCase steps (.object (named ms) true)
  | positions {x : Json} (hx : IsOptional (some x) testCase) :
    Holds testCase steps (.array [x, .object (named steps) true] true)

section Steps

variable {steps : List (String × Json)} {j : Json}

theorem readSteps_eq (before : List Step) (phrase : String) (j : Json) :
    readSteps before phrase j = (data j).map fun d => before ++ [⟨phrase, d⟩] := by
  rw [readSteps, data]
  cases datum 3 j <;> rfl

theorem foldMembers_of_forall₂ {l : List Step} (h : List.Forall₂ IsStepOf steps l)
    (before : List Step) : foldMembers readSteps true before (named steps) = .ok (before ++ l) := by
  induction h generalizing before with
  | nil => rw [List.append_nil]; rfl
  | @cons m s steps l hstep _ ih =>
    obtain ⟨hphrase, hdata⟩ := hstep
    rw [named, List.map_cons, foldMembers_cons, readSteps_eq, hdata, ← named, List.append_cons,
      ← hphrase]
    exact ih (before ++ [s])

theorem gives_foldMembers_readSteps (before : List Step) :
    Gives (foldMembers readSteps true before (named steps)) fun l =>
      ∃ taken, l = before ++ taken ∧ List.Forall₂ IsStepOf steps taken := by
  induction steps generalizing before with
  | nil => exact gives_pure ⟨[], by rw [List.append_nil], .nil⟩
  | cons m steps ih =>
    rw [named, List.map_cons, foldMembers_cons, readSteps_eq, ← named]
    have hread : Gives ((data m.2).map fun d => before ++ [(⟨m.1, d⟩ : Step)]) fun b =>
        ∃ s, b = before ++ [s] ∧ IsStepOf m s := by
      intro b hb
      obtain ⟨d, hd, rfl⟩ := exists_of_map_ok hb
      exact ⟨⟨m.1, d⟩, rfl, rfl, hd⟩
    refine gives_bind hread fun b hb => (ih b).mono fun l hl => ?_
    obtain ⟨s, rfl, hs⟩ := hb
    obtain ⟨taken, rfl, htaken⟩ := hl
    exact ⟨s :: taken, by rw [List.append_assoc, List.singleton_append], .cons hs htaken⟩

theorem stepsOf_eq_ok_iff {l : List Step} :
    stepsOf (.object (named steps) true) = .ok l ↔ List.Forall₂ IsStepOf steps l := by
  constructor
  · intro h
    obtain ⟨taken, rfl, htaken⟩ := gives_foldMembers_readSteps [] l h
    exact htaken
  · intro h
    exact foldMembers_of_forall₂ h []

end Steps

section Plans

variable {testCase : Option String} {steps : List (String × Json)} {p : Plan}

theorem gives_ofJson_of_refused {ms : List (String × Json)} {x : Json}
    (hx : given stepsNames ms = [x]) (hrefused : Gives (stepsOf x) fun _ => False) :
    Gives (ofJson (.object (named ms) true)) fun _ => False := by
  have hmem : x ∈ given stepsNames ms := by rw [hx]; exact List.mem_singleton_self x
  obtain ⟨m, hm, rfl⟩ := List.mem_map.mp hmem
  obtain ⟨hm, hname⟩ := List.mem_filter.mp hm
  have hname : m.1 ∈ stepsNames := by simpa using hname
  have hread (f : Fields) : Gives (readField f m.1 m.2) fun _ => False := by
    rw [readField, if_neg (notMem_testCaseNames hname), if_pos hname]
    exact gives_ite (gives_error _) (gives_bind hrefused fun _ hno => hno.elim)
  have hfold : Gives (foldMembers readField true {} (named ms)) fun _ => False :=
    gives_foldMembers_of_mem (List.mem_map.mpr ⟨m, hm, rfl⟩) (P := fun _ => True)
      (fun _ _ _ => gives_any _) (fun _ => hread _) true trivial
  exact gives_bind hfold fun _ hno => hno.elim

theorem ofJson_positions (x y : Json) : ofJson (.array [x, y] true) =
    optionalString x >>= fun testCase => (stepsOf y).map fun l => (⟨testCase, l⟩ : Plan) := by
  have hrest (testCase : Option String) : (stepsOf y >>= fun l => .ok (⟨testCase, l⟩ : Plan)) =
      (stepsOf y).map fun l => (⟨testCase, l⟩ : Plan) := by
    cases stepsOf y <;> rfl
  simp only [← hrest]
  rfl

theorem ofJson_eq_ok_iff {j : Json} (h : Holds testCase steps j) (hj : j.intact = true) :
    ofJson j = .ok p ↔
      ∃ l, stepsOf (.object (named steps) true) = .ok l ∧ p = ⟨testCase, l⟩ := by
  cases h with
  | members htestCase hx hsteps =>
    have hall {l : List Step} (hl : stepsOf (.object (named steps) true) = .ok l) :=
      ofJson_members htestCase (y := some _) hsteps (reads_optionalString hx) hl
        (intact_of_mem_named (by simpa [Json.intact] using hj))
    constructor
    · intro hp
      cases hl : stepsOf (.object (named steps) true) with
      | error e =>
        have hrefused := gives_ofJson_of_refused hsteps (by rw [hl]; exact gives_error e)
        exact (hrefused p hp).elim
      | ok l => exact ⟨l, rfl, Except.ok.inj (hp.symm.trans (hall hl))⟩
    · rintro ⟨l, hl, rfl⟩
      exact hall hl
  | @positions x hx =>
    have hx : optionalString x = .ok testCase := reads_optionalString hx
    rw [ofJson_positions, hx]
    constructor
    · intro hp
      obtain ⟨l, hl, rfl⟩ := exists_of_map_ok hp
      exact ⟨l, hl, rfl⟩
    · rintro ⟨l, hl, rfl⟩
      rw [hl]
      rfl

/-- A plan is read as its steps in their order, each with the data of its value. -/
theorem ofText_eq_ok_iff [Wording] {j : Json} {s : String} (h : Holds testCase steps j)
    (hs : IsText j s.toList) :
    ofText s = .ok p ↔ p.testCase = testCase ∧ List.Forall₂ IsStepOf steps p.steps := by
  have hread : ofText s = .ok p ↔ ofJson j = .ok p := by
    rw [ofText_eq hs]
    cases ofJson j <;> simp [Except.mapError]
  rw [hread, ofJson_eq_ok_iff h hs.intact]
  constructor
  · rintro ⟨l, hl, rfl⟩
    exact ⟨rfl, stepsOf_eq_ok_iff.mp hl⟩
  · rintro ⟨rfl, hl⟩
    exact ⟨p.steps, stepsOf_eq_ok_iff.mpr hl, rfl⟩

end Plans

section Values

variable {j : Json} {v : Value}

/-- A value that is written as it is: neither a text nor nothing. -/
def IsWritten (v : Value) : Prop := v ≠ .null ∧ ∀ s, v ≠ .string s

theorem isWritten_object (f : String → Option Value) : IsWritten (.object f) := by
  constructor
  · intro h
    cases h
  · intro s h
    cases h

theorem stepData_of_isWritten {n : ℕ} {d : Datum} (hd : d.IsCanonical n)
    (hv : d.tree.value? = some v) (h : IsWritten v) : stepData d = d.text := by
  cases hd with
  | null => exact absurd (Option.some.inj hv).symm h.1
  | string s => exact absurd (Option.some.inj hv).symm (h.2 s)
  | _ => rfl

/-- The data of a value are the text of the one canonical datum that stands for it. -/
theorem exists_isCanonical_of_data {d : String} (hv : j.value? = some v) (h : IsWritten v)
    (hd : data j = .ok d) : ∃ c : Datum, datum 3 j = .ok c ∧ c.IsCanonical 3 ∧
      c.tree.value? = some v ∧ d.toList = c.chars := by
  obtain ⟨c, hc, hcd⟩ := exists_of_map_ok hd
  have hdepth := gives_datum j (n := 3) (by decide) c hc
  obtain ⟨c', hc', hcanonical, hvalue⟩ := datum_of_value? j hv hdepth
  obtain rfl := Except.ok.inj (hc.symm.trans hc')
  rw [stepData_of_isWritten hcanonical hvalue h] at hcd
  refine ⟨c, hc, hcanonical, hvalue, ?_⟩
  rw [← hcd, Datum.text, String.toList_ofList]

theorem exists_data_iff (hv : j.value? = some v) :
    (∃ d, data j = .ok d) ↔ j.height + 2 ≤ depthLimit := by
  constructor
  · rintro ⟨d, hd⟩
    obtain ⟨c, hc, -⟩ := exists_of_map_ok hd
    have hdepth := gives_datum j (n := 3) (by decide) c hc
    omega
  · intro hdepth
    obtain ⟨c, hc, -⟩ := datum_of_value? j hv (n := 3) (by omega)
    exact ⟨stepData c, by rw [data, hc]; rfl⟩

end Values

/-- The steps of a plan have the data of their values. The data of a value that is written as it is
exist unless the value is too deep. They are a compact text of the same value with its names in
order, every spelling of the value has them, and they have themselves. -/
theorem data_of_written_value [Wording] :
    (∀ (testCase : Option String) (steps : List (String × Json)) (tree : Json) (s : String)
      (p : Plan), Holds testCase steps tree → IsText tree s.toList →
      (ofText s = .ok p ↔ p.testCase = testCase ∧ List.Forall₂ IsStepOf steps p.steps)) ∧
    ∀ (j : Json) (v : Value), j.value? = some v → IsWritten v →
      ((∃ d, data j = .ok d) ↔ j.height + 2 ≤ depthLimit) ∧
      ∀ d, data j = .ok d →
        (∃ k, IsText k d.toList ∧ Json.ofText d = (k, true) ∧ IsCompact d.toList ∧
          k.value? = some v ∧ k.IsOrdered ∧ data k = .ok d) ∧
        ∀ j' d', j'.value? = some v → data j' = .ok d' → d' = d := by
  refine ⟨fun testCase steps tree s p => ofText_eq_ok_iff, fun j v hv hwritten => ?_⟩
  refine ⟨exists_data_iff hv, fun d hd => ?_⟩
  obtain ⟨c, hc, hcanonical, hvalue, hchars⟩ := exists_isCanonical_of_data hv hwritten hd
  constructor
  · have htext : IsText c.tree d.toList := hchars ▸ hcanonical.isText
    have hagain : data c.tree = .ok d := by
      rw [data, hcanonical.datum_tree, ← hd, data, hc]
    exact ⟨c.tree, htext, Json.ofText_eq htext, hchars ▸ hcanonical.isSolid.isCompact, hvalue,
      hcanonical.isOrdered, hagain⟩
  · intro j' d' hv' hd'
    obtain ⟨c', -, hcanonical', hvalue', hchars'⟩ := exists_isCanonical_of_data hv' hwritten hd'
    have hsame : c' = c := hcanonical.isDetermined c' v hcanonical' hvalue hvalue'
    rw [← String.toList_inj, hchars', hchars, hsame]

/-- A step whose value has a repeated name, an escape that is longer than it need be and the largest
integer. -/
theorem data_of_written_value_repeats :
    let n : Numeral := ⟨false, [1, 8, 4, 4, 6, 7, 4, 4, 0, 7, 3, 7, 0, 9, 5, 5, 1, 6, 1, 5], [],
      false, []⟩
    let j : Json := .object (named [("b", .array [.bool true] true), ("a", .string (some "A\"")),
      ("b", .array [.number n, .object [] true] true)]) true
    let s := "\x7b\"current_bdd_steps\":\x7b\"Fill\":\x7b\"b\":[true],\"a\":\"\\u0041\\\"\"," ++
      "\"b\" : [18446744073709551615, \x7b\x7d]\x7d\x7d\x7d"
    let d := "\x7b\"a\":\"A\\\"\",\"b\":[18446744073709551615,\x7b\x7d]\x7d"
    let last : Value := .array [.integer 18446744073709551615, .object fun _ => none]
    ofText s = .ok ⟨none, [⟨"Fill", d⟩]⟩ ∧ ∃ f k, j.value? = some (.object f) ∧
      f "a" = some (.string "A\"") ∧ f "b" = some last ∧ IsText k d.toList ∧
      k.value? = some (.object f) ∧ data k = .ok d := by
  intro n j s d last
  have hgap := isGap_nil
  have hspace : IsGap [' '] := by simp [IsGap, isSpace]
  have hwhole : Numeral.IsWhole n.whole (Numeral.digits n.whole) :=
    .nonzero (by decide) (by simp [Numeral.AreDigits])
  have hn := Numeral.IsText.parts (n := n) hwhole .none .none
  have hletter : IsPiece (.char 'A') ['\\', 'u', '0', '0', '4', '1'] :=
    .unit (w := 0) (x := 0) (y := 4) (z := 1) rfl rfl rfl rfl
  have hquote : IsPiece (.char '"') ['\\', '"'] := .short rfl
  have hstring : IsString (some "A\"") ['"', '\\', 'u', '0', '0', '4', '1', '\\', '"', '"'] :=
    .quoted (.cons hletter (.cons hquote .nil))
  let ms : List (String × Json) := [("current_bdd_steps", .object (named [("Fill", j)]) true)]
  have htext : IsText (.object (named ms) true) s.toList := by
    have hb := isString_quote "b"
    have hj := IsText.object (.cons hgap hb hgap (.array (.last .true))
      (.cons hgap (isString_quote "a") hgap (.string hstring)
        (.last hgap hb hspace (.spaced hspace (.array (.cons (.number hn)
          (.last (.spaced hspace (.emptyObject hgap) hgap)))) hgap))))
    have h := IsText.object (.last hgap (isString_quote "current_bdd_steps") hgap
      (.object (.last hgap (isString_quote "Fill") hgap hj)))
    exact Eq.subst (motive := IsText _) (by decide +kernel) h
  have hholds : Holds none [("Fill", j)] (.object (named ms) true) := .members rfl .absent rfl
  have hdata : data j = .ok d := by decide +kernel
  have hinteger : n.integer? = some 18446744073709551615 := by decide +kernel
  let f (name : String) : Option Value :=
    ((if name = "b" then some last else none).or
      (if name = "a" then some (.string "A\"") else none)).or
        (if name = "b" then some (.array [.bool true]) else none)
  have hf : j.value? = some (.object f) := by
    simp [j, f, last, named, value?, valueMembers?, valueItems?, hinteger]
  have hplan : ofText s = .ok ⟨none, [⟨"Fill", d⟩]⟩ :=
    (data_of_written_value.1 none [("Fill", j)] _ s _ hholds htext).mpr
      ⟨rfl, .cons ⟨rfl, hdata⟩ .nil⟩
  obtain ⟨-, hall⟩ := data_of_written_value.2 j (.object f) hf (isWritten_object f)
  obtain ⟨⟨k, hk, -, -, hvalue, -, hagain⟩, -⟩ := hall d hdata
  exact ⟨hplan, f, k, hf, by simp [f], by simp [f], hk, hvalue, hagain⟩

end Testbed.Plan
