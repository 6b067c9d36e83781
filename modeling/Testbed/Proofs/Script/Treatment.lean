import Mathlib.Data.List.Forall2
import Testbed.Proofs.Text.Lines
import Testbed.Script

/-!
# What becomes of the steps

A script is written in one pass over the steps of its plan. A step that a rule lists adds the block
of that rule, any other adds nothing and is passed over. The script, the counts, the phrases that
were passed over and the strict form of a script are all read off what became of each step, so that
plans put one behind the other are treated as they are each on their own.
-/

namespace Testbed.Script

open Text (unlines unlines_append)

def IsListed (s : Step) : Prop := ∃ r ∈ rules, s.phrase ∈ r.phrases

instance (s : Step) : Decidable (IsListed s) :=
  inferInstanceAs (Decidable (∃ r ∈ rules, s.phrase ∈ r.phrases))

/-- What becomes of a step, said of the table and not of how it is searched. -/
inductive IsTreatedAs (s : Step) : Treatment → Prop where
  | emitted {r : Rule} (hr : r ∈ rules) (h : s.phrase ∈ r.phrases) :
    IsTreatedAs s (.emitted (unlines (r.lines s.data)))
  | skipped (h : ¬IsListed s) : IsTreatedAs s .skipped

def Treatment.text : Treatment → String
  | .emitted block => block
  | .skipped => ""

def body (p : Plan) : String := String.join ((treatments p).map fun x => x.2.text)

structure Draft where
  text : String
  treated : List (Step × Treatment)

def Draft.add (d : Draft) (s : Step) : Draft :=
  ⟨d.text ++ (treat s).text, d.treated ++ [(s, treat s)]⟩

section Steps

variable {s : Step} {x : String} {r r' : Rule}

/-- No phrase stands in two rules. -/
theorem rule_unique (hr : r ∈ rules) (hr' : r' ∈ rules) (hx : x ∈ r.phrases)
    (hx' : x ∈ r'.phrases) : r = r' := by
  have hrules : ∀ r ∈ rules, ∀ r' ∈ rules, ∀ x ∈ r.phrases, x ∈ r'.phrases → r = r' := by
    decide +kernel
  exact hrules r hr r' hr' x hx hx'

theorem ruleFor?_eq_some_iff : ruleFor? x = some r ↔ r ∈ rules ∧ x ∈ r.phrases := by
  constructor
  · intro h
    exact ⟨List.mem_of_find?_eq_some h, by simpa using List.find?_some h⟩
  · rintro ⟨hr, hx⟩
    cases hfound : ruleFor? x with
    | none =>
      rw [ruleFor?, List.find?_eq_none] at hfound
      exact absurd hx (by simpa using hfound r hr)
    | some r' =>
      have hx' : x ∈ r'.phrases := by simpa using List.find?_some hfound
      rw [rule_unique (List.mem_of_find?_eq_some hfound) hr hx' hx]

theorem isRecognized_eq (s : Step) : isRecognized s = decide (IsListed s) := by
  rw [Bool.eq_iff_iff, isRecognized, decide_eq_true_iff, Option.isSome_iff_exists]
  exact exists_congr fun r => ruleFor?_eq_some_iff

theorem treat_of_isListed (hr : r ∈ rules) (h : s.phrase ∈ r.phrases) :
    treat s = .emitted (unlines (r.lines s.data)) := by
  rw [treat, ruleFor?_eq_some_iff.mpr ⟨hr, h⟩]

theorem treat_of_not_isListed (h : ¬IsListed s) : treat s = .skipped := by
  have hnone : ruleFor? s.phrase = none := by
    rw [Option.eq_none_iff_forall_ne_some]
    intro r hr
    exact h ⟨r, ruleFor?_eq_some_iff.mp hr⟩
  rw [treat, hnone]

theorem isTreatedAs_iff (t : Treatment) : IsTreatedAs s t ↔ treat s = t := by
  constructor
  · intro h
    cases h with
    | emitted hr h => exact treat_of_isListed hr h
    | skipped h => exact treat_of_not_isListed h
  · rintro rfl
    by_cases h : IsListed s
    · obtain ⟨r, hr, hphrase⟩ := h
      rw [treat_of_isListed hr hphrase]
      exact .emitted hr hphrase
    · rw [treat_of_not_isListed h]
      exact .skipped h

theorem treat_eq_skipped_iff : treat s = .skipped ↔ ¬IsListed s := by
  constructor
  · rintro h ⟨r, hr, hphrase⟩
    rw [treat_of_isListed hr hphrase] at h
    cases h
  · exact treat_of_not_isListed

theorem unlines_stepLines (s : Step) : unlines (stepLines s) = (treat s).text := by
  rw [stepLines, treat]
  cases ruleFor? s.phrase <;> rfl

end Steps

section Plans

variable (p : Plan)

theorem body_eq : body p = String.join (p.steps.map fun s => (treat s).text) := by
  rw [body, treatments, List.map_map]
  rfl

theorem ofPlan_eq_body : ofPlan p = prologue ++ body p ++ epilogue := by
  have hsteps (ss : List Step) :
      unlines (ss.flatMap stepLines) = String.join (ss.map fun s => (treat s).text) := by
    induction ss with
    | nil => rfl
    | cons s ss ih =>
      rw [List.flatMap_cons, unlines_append, ih, unlines_stepLines, List.map_cons,
        String.join_cons]
  rw [ofPlan, lines, unlines_append, unlines_append, hsteps, body_eq, prologue, epilogue]

/-- One pass over the steps writes the script and notes what became of them. -/
theorem foldl_add (d : Draft) : p.steps.foldl Draft.add d =
    ⟨d.text ++ body p, d.treated ++ treatments p⟩ := by
  obtain ⟨testCase, ss⟩ := p
  induction ss generalizing d with
  | nil => simp [body, treatments]
  | cons s ss ih =>
    rw [List.foldl_cons, ih]
    simp [Draft.add, body, treatments, String.append_assoc]

/-- The blocks of the listed steps, one for each time that a step occurs. -/
theorem exists_blocks : ∃ blocks,
    List.Forall₂ (fun s block => IsTreatedAs s (.emitted block)) (p.steps.filter (IsListed ·))
      blocks ∧ body p = String.join blocks := by
  rw [body_eq]
  induction p.steps with
  | nil => exact ⟨[], .nil, rfl⟩
  | cons s ss ih =>
    obtain ⟨blocks, hblocks, hbody⟩ := ih
    rw [List.map_cons, String.join_cons, hbody]
    by_cases h : IsListed s
    · obtain ⟨r, hr, hphrase⟩ := h
      refine ⟨unlines (r.lines s.data) :: blocks, ?_, ?_⟩
      · rw [List.filter_cons_of_pos (by simpa using ⟨r, hr, hphrase⟩)]
        exact .cons (.emitted hr hphrase) hblocks
      · rw [treat_of_isListed hr hphrase, String.join_cons, Treatment.text]
    · refine ⟨blocks, ?_, ?_⟩
      · rwa [List.filter_cons_of_neg (by simpa using h)]
      · rw [treat_of_not_isListed h, Treatment.text, String.empty_append]

theorem forall₂_treatments :
    List.Forall₂ (fun s x => x.1 = s ∧ IsTreatedAs s x.2) p.steps (treatments p) := by
  rw [treatments, List.forall₂_map_right_iff, List.forall₂_same]
  exact fun s _ => ⟨rfl, (isTreatedAs_iff _).mpr rfl⟩

theorem treatments_append (testCase : Option String) (ss ss' : List Step) :
    treatments ⟨testCase, ss ++ ss'⟩ =
      treatments ⟨testCase, ss⟩ ++ treatments ⟨testCase, ss'⟩ :=
  List.map_append

theorem body_append (testCase : Option String) (ss ss' : List Step) :
    body ⟨testCase, ss ++ ss'⟩ = body ⟨testCase, ss⟩ ++ body ⟨testCase, ss'⟩ := by
  rw [body, treatments_append, List.map_append, String.join_append, body, body]

/-- Steps that no rule lists leave no trace in a script. -/
theorem ofPlan_filter_isListed (testCase : Option String) :
    ofPlan ⟨testCase, p.steps.filter (IsListed ·)⟩ = ofPlan p := by
  have hbody : body ⟨testCase, p.steps.filter (IsListed ·)⟩ = body p := by
    rw [body_eq, body_eq]
    induction p.steps with
    | nil => rfl
    | cons s ss ih =>
      rw [List.map_cons, String.join_cons, ← ih, List.filter_cons]
      by_cases h : IsListed s
      · rw [if_pos (by simpa using h), List.map_cons, String.join_cons]
      · rw [if_neg (by simpa using h), treat_of_not_isListed h, Treatment.text,
          String.empty_append]
  rw [ofPlan_eq_body, hbody, ofPlan_eq_body]

theorem ofPlan_recognized :
    ofPlan { p with steps := p.steps.filter isRecognized } = ofPlan p := by
  rw [funext isRecognized_eq]
  exact ofPlan_filter_isListed p p.testCase

theorem skipped_eq : skipped p = (p.steps.filter (¬IsListed ·)).map Step.phrase := by
  have hpred : (fun s => !isRecognized s) = fun s => decide (¬IsListed s) := by
    funext s
    rw [isRecognized_eq, decide_not]
  rw [skipped, hpred]

theorem counts_eq : emittedCount p = (treatments p).countP (·.2 ≠ .skipped) ∧
    skipped p = ((treatments p).filter (·.2 = .skipped)).map (·.1.phrase) := by
  constructor
  · rw [emittedCount, treatments, List.countP_map, ← List.countP_eq_length_filter]
    refine List.countP_congr fun s _ => ?_
    simp [isRecognized_eq, treat_eq_skipped_iff]
  · rw [skipped_eq, treatments, List.filter_map, List.map_map]
    refine congrArg (List.map Step.phrase) (List.filter_congr fun s _ => ?_)
    simp [treat_eq_skipped_iff]

theorem emittedCount_add_skipped : emittedCount p + (skipped p).length = p.steps.length := by
  rw [emittedCount, skipped, List.length_map]
  exact (List.length_eq_length_filter_add isRecognized).symm

theorem ofPlanStrict_eq : ofPlanStrict p = if ∀ s ∈ p.steps, IsListed s then .ok (ofPlan p)
    else .error (.unrecognizedSteps ((p.steps.filter (¬IsListed ·)).map Step.phrase)) := by
  have hnone : (p.steps.filter (¬IsListed ·)).map Step.phrase = [] ↔ ∀ s ∈ p.steps, IsListed s := by
    simp [List.filter_eq_nil_iff]
  rw [ofPlanStrict, skipped_eq]
  by_cases hall : ∀ s ∈ p.steps, IsListed s
  · rw [if_pos hall, hnone.mpr hall]
  · rw [if_neg hall]
    obtain ⟨x, xs, hskipped⟩ := List.exists_cons_of_ne_nil (mt hnone.mp hall)
    rw [hskipped]

end Plans

/-- A script is its prologue, the blocks of the listed steps in the order of the plan, one for each
time that a step occurs, and its epilogue; one pass over the steps writes it together with the
report of what became of each of them. A step is passed over just if no rule lists its phrase. Such
steps add nothing to the script, are counted apart, and are the ones that the strict form of the
script is refused for. Plans that are put one behind the other are treated each on their own. -/
theorem every_step_accounted_for (p : Plan) :
    (∃ blocks,
      List.Forall₂ (fun s block => IsTreatedAs s (.emitted block)) (p.steps.filter (IsListed ·))
        blocks ∧
      body p = String.join blocks ∧ ofPlan p = prologue ++ body p ++ epilogue) ∧
    p.steps.foldl Draft.add ⟨prologue, []⟩ = ⟨prologue ++ body p, treatments p⟩ ∧
    List.Forall₂ (fun s x => x.1 = s ∧ IsTreatedAs s x.2) p.steps (treatments p) ∧
    (emittedCount p = (treatments p).countP (·.2 ≠ .skipped) ∧
      skipped p = ((treatments p).filter (·.2 = .skipped)).map (·.1.phrase) ∧
      emittedCount p + (skipped p).length = p.steps.length) ∧
    (∀ (q : Plan) (testCase : Option String),
      body ⟨testCase, p.steps ++ q.steps⟩ = body p ++ body q ∧
      treatments ⟨testCase, p.steps ++ q.steps⟩ = treatments p ++ treatments q) ∧
    (∀ testCase, ofPlan ⟨testCase, p.steps.filter (IsListed ·)⟩ = ofPlan p) ∧
    ofPlanStrict p = if ∀ s ∈ p.steps, IsListed s then .ok (ofPlan p)
      else .error (.unrecognizedSteps ((p.steps.filter (¬IsListed ·)).map Step.phrase)) := by
  obtain ⟨blocks, hblocks, hbody⟩ := exists_blocks p
  obtain ⟨hemitted, hskipped⟩ := counts_eq p
  refine ⟨⟨blocks, hblocks, hbody, ofPlan_eq_body p⟩, foldl_add p _, forall₂_treatments p,
    ⟨hemitted, hskipped, emittedCount_add_skipped p⟩, fun q testCase => ⟨?_, ?_⟩,
    ofPlan_filter_isListed p, ofPlanStrict_eq p⟩
  · exact body_append testCase p.steps q.steps
  · exact treatments_append testCase p.steps q.steps

/-- The block of a step is its announcement and its action, with the data in a literal. -/
theorem every_step_accounted_for_username :
    let s : Step := ⟨"And enters their username", "an \"admin\""⟩
    let p : Plan := ⟨none, [⟨"Nap", "1"⟩, s]⟩
    let block := "            print(\"Step: Entering username...\")\n" ++
      "            await page.get_by_placeholder(\"Username\").fill(\"an \\\"admin\\\"\")\n"
    IsListed s ∧ ¬IsListed ⟨"Nap", "1"⟩ ∧ IsTreatedAs s (.emitted block) ∧
      ofPlan p = prologue ++ block ++ epilogue ∧ skipped p = ["Nap"] ∧ emittedCount p = 1 := by
  intro s p block
  have hblock : treat s = .emitted block := by decide +kernel
  obtain ⟨⟨blocks, hblocks, hbody, hscript⟩, -, -, ⟨-, -, hcounts⟩, -⟩ := every_step_accounted_for p
  have hlisted : p.steps.filter (IsListed ·) = [s] := by decide +kernel
  obtain rfl : blocks = [block] := by
    rw [hlisted] at hblocks
    obtain ⟨b, _, hb, hrest, rfl⟩ := List.forall₂_cons_left_iff.mp hblocks
    rw [List.forall₂_nil_left_iff.mp hrest]
    rw [isTreatedAs_iff, hblock] at hb
    rw [Treatment.emitted.inj hb]
  have hskipped : skipped p = ["Nap"] := by decide +kernel
  have hemitted : emittedCount p = 1 := by
    rw [hskipped] at hcounts
    exact Nat.add_right_cancel hcounts
  refine ⟨by decide +kernel, by decide +kernel, (isTreatedAs_iff _).mpr hblock, ?_, hskipped,
    hemitted⟩
  rw [hscript, hbody]
  rfl

example : ofPlanStrict ⟨none, [⟨"Nap", "1"⟩, ⟨"Nap", "2"⟩]⟩ =
    .error (.unrecognizedSteps ["Nap", "Nap"]) := by rfl

end Testbed.Script
