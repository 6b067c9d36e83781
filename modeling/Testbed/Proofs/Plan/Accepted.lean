import Testbed.Proofs.Json.Place
import Testbed.Proofs.Json.Spelled
import Testbed.Proofs.Plan.Data

/-!
# Plans that are read

A plan with steps is only read from a text that spells a tree of it: an object that gives its steps
once, or an array with the steps in the second place. Every step has its value at a place of the
text, where any other value of the step could be written.
-/

namespace Testbed.Plan

open Json

section Intact

mutual

theorem intact_of_datum : ∀ {j : Json} {n : ℕ} {d : Datum}, datum n j = .ok d → j.intact = true
  | .null, _, _, _ | .bool _, _, _, _ | .number _, _, _, _ | .string _, _, _, _ => rfl
  | .array items closed, n, d, h => by
    obtain ⟨_, -, h⟩ := exists_of_bind_ok h
    obtain ⟨vs, hitems, -⟩ := exists_of_bind_ok h
    obtain ⟨hintact, hclosed⟩ := intact_of_datumItems hitems
    rw [intact, hintact, hclosed, Bool.and_self]
  | .object members closed, n, d, h => by
    obtain ⟨_, -, h⟩ := exists_of_bind_ok h
    obtain ⟨vs, hmembers, -⟩ := exists_of_bind_ok h
    obtain ⟨hintact, hclosed⟩ := intact_of_datumMembers hmembers
    rw [intact, hintact, hclosed, Bool.and_self]
  | .broken, _, _, h => by cases h

theorem intact_of_datumItems : ∀ {items : List Json} {n : ℕ} {closed : Bool} {vs : List Datum},
    datumItems n closed items = .ok vs → intactItems items = true ∧ closed = true
  | [], _, _, _, h => by
    obtain ⟨_, hclosed, -⟩ := exists_of_bind_ok h
    exact ⟨rfl, of_closing hclosed⟩
  | j :: r, _, _, _, h => by
    obtain ⟨v, hj, h⟩ := exists_of_bind_ok h
    obtain ⟨vs, hr, -⟩ := exists_of_bind_ok h
    obtain ⟨hintact, hclosed⟩ := intact_of_datumItems hr
    exact ⟨by rw [intactItems, intact_of_datum hj, hintact, Bool.and_self], hclosed⟩

theorem intact_of_datumMembers : ∀ {members : List (Option String × Json)} {n : ℕ} {closed : Bool}
    {seen vs : List (String × Datum)}, datumMembers n closed seen members = .ok vs →
      intactMembers members = true ∧ closed = true
  | [], _, _, _, _, h => by
    obtain ⟨_, hclosed, -⟩ := exists_of_bind_ok h
    exact ⟨rfl, of_closing hclosed⟩
  | (key, j) :: r, _, _, _, _, h => by
    obtain ⟨k, -, h⟩ := exists_of_bind_ok h
    obtain ⟨v, hj, h⟩ := exists_of_bind_ok h
    obtain ⟨hintact, hclosed⟩ := intact_of_datumMembers h
    exact ⟨by rw [intactMembers, intact_of_datum hj, hintact, Bool.and_self], hclosed⟩

end

end Intact

section Reading

variable {j : Json} {l : List Step} {p : Plan}

theorem intact_of_readSteps {before : List Step} {phrase : String}
    (h : readSteps before phrase j = .ok l) : j.intact = true := by
  obtain ⟨v, hv, -⟩ := exists_of_bind_ok h
  exact intact_of_datum hv

/-- Steps that are read from a tree are those of its members, unless there are none. -/
theorem exists_of_stepsOf (h : stepsOf j = .ok l) : j.intact = true ∧
    (l = [] ∨ ∃ steps, j = .object (named steps) true ∧ List.Forall₂ IsStepOf steps l) := by
  unfold stepsOf at h
  split at h
  · cases h
    exact ⟨rfl, .inl rfl⟩
  · next members closed =>
    have hfold := exists_of_foldMembers (Φ := fun _ ms => ∀ m ∈ ms, m.2.intact = true)
      (fun hread hms => List.forall_mem_cons.mpr ⟨intact_of_readSteps hread, hms⟩) (by simp) h
    obtain ⟨rfl, steps, rfl, hintact⟩ := hfold
    refine ⟨by rw [intact, intactMembers_named hintact, Bool.and_true], .inr ⟨steps, rfl, ?_⟩⟩
    exact stepsOf_eq_ok_iff.mp h
  · obtain ⟨x, -, hx⟩ := exists_of_bind_ok h
    cases hx

theorem awaits_of_readField {f f' g : Fields} {key : String} {ms : List (String × Json)}
    (hread : readField f key j = .ok f') (h : f'.Awaits g ms) : f.Awaits g ((key, j) :: ms) := by
  obtain ⟨htestCase, hsteps, hms⟩ := h
  unfold readField at hread
  split_ifs at hread with hcase hsome hkey hsome
  · obtain ⟨v, hv, hf⟩ := exists_of_bind_ok hread
    obtain rfl := Except.ok.inj hf
    have hnone : f.testCase = none := by simpa using hsome
    refine ⟨?_, hsteps.of_skip (notMem_stepsNames hcase),
      List.forall_mem_cons.mpr ⟨intact_of_optionalString hv, hms⟩⟩
    rw [hnone]
    exact htestCase.one_of_fill hv hcase
  · obtain ⟨v, hv, hf⟩ := exists_of_bind_ok hread
    obtain rfl := Except.ok.inj hf
    have hnone : f.steps = none := by simpa using hsome
    refine ⟨htestCase.of_skip hcase, ?_,
      List.forall_mem_cons.mpr ⟨(exists_of_stepsOf hv).1, hms⟩⟩
    rw [hnone]
    exact hsteps.one_of_fill hv hkey
  · obtain ⟨_, hj, hf⟩ := exists_of_bind_ok hread
    obtain rfl := Except.ok.inj hf
    exact ⟨htestCase.of_skip hcase, hsteps.of_skip hkey,
      List.forall_mem_cons.mpr ⟨intact_of_ignored hj, hms⟩⟩

theorem isOptional_of_optionalString {o : Option String} (h : optionalString j = .ok o) :
    IsOptional (some j) o := by
  obtain ⟨rfl, rfl⟩ | ⟨s, rfl, rfl⟩ := optionalString_eq_ok_iff.mp h
  · exact .null
  · exact .text s

theorem exists_isOptional {values : List Json} {o : Option (Option String)}
    (h : Pending optionalString none values o) :
    ∃ x : Option Json, values = x.toList ∧ IsOptional x (o.getD none) := by
  cases h with
  | rest => exact ⟨none, rfl, .absent⟩
  | @one j v hv => exact ⟨some j, rfl, isOptional_of_optionalString hv⟩

theorem exists_holds_of_members {members : List (Option String × Json)} {closed : Bool}
    (h : ofJson (.object members closed) = .ok p) (hsteps : p.steps ≠ []) :
    (Json.object members closed).intact = true ∧ ∃ steps,
      Holds p.testCase steps (.object members closed) ∧ List.Forall₂ IsStepOf steps p.steps := by
  obtain ⟨g, hfold, hp⟩ := exists_of_bind_ok h
  obtain rfl := Except.ok.inj hp
  obtain ⟨rfl, ms, rfl, hcase, hlist, hms⟩ := exists_of_foldMembers
    (Φ := fun f ms => f.Awaits g ms) awaits_of_readField ⟨.rest _, .rest _, by simp⟩ hfold
  refine ⟨by rw [intact, intactMembers_named hms, Bool.and_true], ?_⟩
  obtain ⟨x, hx, hoptional⟩ := exists_isOptional hcase
  generalize hvalues : given stepsNames ms = values at hlist
  generalize hg : g.steps = o at hlist
  cases hlist with
  | rest => exact absurd (by rw [Fields.plan, hg]; rfl) hsteps
  | @one y l hy =>
    have hl : g.plan.steps = l := by rw [Fields.plan, hg]; rfl
    obtain ⟨-, hempty | ⟨steps, rfl, hall⟩⟩ := exists_of_stepsOf hy
    · exact absurd (hl.trans hempty) hsteps
    · exact ⟨steps, .members hx hoptional hvalues, hl ▸ hall⟩

/-- An array without a second place has no steps, and one that has more is refused. -/
theorem exists_holds_of_items {items : List Json} {closed : Bool}
    (h : ofJson (.array items closed) = .ok p) (hsteps : p.steps ≠ []) :
    (Json.array items closed).intact = true ∧ ∃ steps,
      Holds p.testCase steps (.array items closed) ∧ List.Forall₂ IsStepOf steps p.steps := by
  match items with
  | [] =>
    cases closed <;> cases h
    exact absurd rfl hsteps
  | [x] =>
    obtain ⟨testCase, -, h⟩ := exists_of_bind_ok (x := optionalString x) h
    cases closed <;> cases h
    exact absurd rfl hsteps
  | x :: y :: rest =>
    obtain ⟨testCase, hx, h⟩ := exists_of_bind_ok (x := optionalString x) h
    obtain ⟨l, hy, h⟩ := exists_of_bind_ok (x := stepsOf y) h
    obtain ⟨_, hend, hp⟩ := exists_of_bind_ok h
    obtain rfl := Except.ok.inj hp
    obtain ⟨rfl, rfl⟩ : closed = true ∧ rest = [] := by simpa using of_closing hend
    obtain ⟨hintact, hempty | ⟨steps, rfl, hall⟩⟩ := exists_of_stepsOf hy
    · exact absurd hempty hsteps
    refine ⟨?_, steps, .positions (isOptional_of_optionalString hx), hall⟩
    simp only [intact, intactItems, intact_of_optionalString hx, Bool.true_and, Bool.and_true]
      at hintact ⊢
    exact hintact

theorem exists_holds_of_ofJson (h : ofJson j = .ok p) (hsteps : p.steps ≠ []) :
    j.intact = true ∧ ∃ steps, Holds p.testCase steps j ∧ List.Forall₂ IsStepOf steps p.steps := by
  cases j with
  | object members closed => exact exists_holds_of_members h hsteps
  | array items closed => exact exists_holds_of_items h hsteps
  | _ =>
    obtain ⟨x, -, hx⟩ := exists_of_bind_ok h
    cases hx

/-- A plan with steps is only read from a text that spells a tree of it. -/
theorem exists_holds_of_ofText [Wording] {s : String} (h : ofText s = .ok p)
    (hsteps : p.steps ≠ []) :
    ∃ j steps, IsText j s.toList ∧ Holds p.testCase steps j ∧
      List.Forall₂ IsStepOf steps p.steps := by
  have hread : readText ofJson s = .ok p := by
    unfold ofText at h
    cases hread : readText ofJson s with
    | error e => rw [hread] at h; cases h
    | ok q => rw [hread] at h; exact congrArg Except.ok (Except.ok.inj h)
  obtain ⟨j, htree, hj⟩ := exists_of_readText hread
  obtain ⟨hintact, steps, hholds, hall⟩ := exists_holds_of_ofJson hj hsteps
  exact ⟨j, steps, isText_iff.mpr ⟨htree, hintact⟩, hholds, hall⟩

end Reading

section Places

variable {testCase : Option String} {i : ℕ} {phrase : String} {before after : List Char}

/-- The value of a step stands between these two texts: whatever value is written there, the whole
spells the tree of a plan in which this step has that value, and what is around it stays. -/
def IsStepPlace (testCase : Option String) (i : ℕ) (phrase : String)
    (before after : List Char) : Prop :=
  ∃ (f : Json → Json) (steps₁ steps₂ : List (String × Json)), IsPlace f before after ∧
    steps₁.length = i ∧ ∀ j, Holds testCase (steps₁ ++ (phrase, j) :: steps₂) (f j)

theorem exists_of_given {names : List String} {ms : List (String × Json)} {y : Json}
    (h : given names ms = [y]) : ∃ ms₁ key ms₂, ms = ms₁ ++ (key, y) :: ms₂ ∧ key ∈ names ∧
      given names ms₁ = [] ∧ given names ms₂ = [] := by
  induction ms with
  | nil => cases h
  | cons m ms ih =>
    obtain ⟨key, x⟩ := m
    by_cases hkey : key ∈ names
    · rw [given_cons_of_mem hkey] at h
      obtain ⟨rfl, hrest⟩ := List.cons.inj h
      exact ⟨[], key, ms, rfl, hkey, rfl, hrest⟩
    · rw [given_cons_of_notMem hkey] at h
      obtain ⟨ms₁, k, ms₂, rfl, hk, h₁, h₂⟩ := ih h
      exact ⟨(key, x) :: ms₁, k, ms₂, rfl, hk, by rw [given_cons_of_notMem hkey, h₁], h₂⟩

theorem given_append (names : List String) (ms₁ ms₂ : List (String × Json)) :
    given names (ms₁ ++ ms₂) = given names ms₁ ++ given names ms₂ := by
  simp [given]

/-- The steps of a plan have a place in its text, where any other steps could be written. -/
theorem exists_place_of_holds {steps : List (String × Json)} {k : Json} {s : List Char}
    (h : Holds testCase steps k) (hs : IsText k s) :
    ∃ f, HasPlace f (.object (named steps) true) s ∧
      ∀ steps', Holds testCase steps' (f (.object (named steps') true)) := by
  cases h with
  | @members ms x hx hoptional hsteps =>
    obtain ⟨ms₁, key, ms₂, rfl, hkey, h₁, h₂⟩ := exists_of_given hsteps
    have hnamed (y : Json) : named (ms₁ ++ (key, y) :: ms₂) =
        named ms₁ ++ (some key, y) :: named ms₂ := by simp [named]
    refine ⟨fun y => .object (named ms₁ ++ (some key, y) :: named ms₂) true, ?_, fun steps' => ?_⟩
    · exact hasPlace_member (hnamed _ ▸ hs)
    · simp only [← hnamed]
      refine .members ?_ hoptional ?_
      · rw [given_append, given_cons_of_notMem (notMem_testCaseNames hkey)] at hx ⊢
        exact hx
      · rw [given_append, given_cons_of_mem hkey, h₁, h₂]
        rfl
  | @positions x hx =>
    refine ⟨fun y => .array ([x] ++ y :: []) true, hasPlace_item hs, fun steps' => ?_⟩
    exact .positions hx

/-- Every step of a plan that is read has its value at a place of the text. -/
theorem exists_stepPlace [Wording] {s : String} (h : ofText s = .ok p) {x : Step}
    (hx : p.steps[i]? = some x) :
    ∃ f j steps₁ steps₂, HasPlace f j s.toList ∧ steps₁.length = i ∧
      ∀ k, Holds p.testCase (steps₁ ++ (x.phrase, k) :: steps₂) (f k) := by
  obtain ⟨hi, hget⟩ := List.getElem?_eq_some_iff.mp hx
  have hne : p.steps ≠ [] := List.ne_nil_of_length_pos (Nat.zero_lt_of_lt hi)
  obtain ⟨tree, steps, htext, hholds, hall⟩ := exists_holds_of_ofText h hne
  obtain ⟨f, hplace, hf⟩ := exists_place_of_holds hholds htext
  have hlength : i < steps.length := hall.length_eq ▸ hi
  have hphrase : x.phrase = steps[i].1 := hget ▸ (hall.get hlength hi).1
  have hsplit : steps = steps.take i ++ (x.phrase, steps[i].2) :: steps.drop (i + 1) := by
    rw [hphrase, List.getElem_cons_drop, List.take_append_drop]
  have hmember (k : Json) : named (steps.take i ++ (x.phrase, k) :: steps.drop (i + 1)) =
      named (steps.take i) ++ (some x.phrase, k) :: named (steps.drop (i + 1)) := by
    simp [named]
  refine ⟨_, steps[i].2, steps.take i, steps.drop (i + 1),
    HasPlace.comp (f := f) (g := fun k => .object (named (steps.take i) ++
      (some x.phrase, k) :: named (steps.drop (i + 1))) true) ?_ fun t ht => hasPlace_member ht,
    List.length_take_of_le hlength.le, fun k => ?_⟩
  · rw [← hmember, ← hsplit]
    exact hplace
  · rw [Function.comp_apply, ← hmember]
    exact hf _

end Places

end Testbed.Plan
