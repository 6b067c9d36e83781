import Mathlib.Data.List.Nodup
import Testbed.Proofs.Script.Literal
import Testbed.Script

/-!
# Instructions

What a script does is a list of instructions: a rule of the table for each recognized step, with
the test data if the rule uses them. A script can be read in one way only. The first line of a block
tells its rule, the rule tells how many lines follow and where the data stand, and a literal ends
where it was meant to end, so that no data can pass for a block or for the end of the script.
-/

namespace Testbed.Script

open Text (IsLine isLine_append splitLines unlines unlines_append unlines_cons)

@[ext] structure Instruction where
  rule : Rule
  data : Option String
  listed : rule ∈ rules
  isSome_data : data.isSome = rule.action.usesData

namespace Instruction

def ofRule (r : Rule) (listed : r ∈ rules) (data : String) : Instruction where
  rule := r
  data := if r.action.usesData then some data else none
  listed := listed
  isSome_data := by cases r.action.usesData <;> rfl

def ofStep? (s : Step) : Option Instruction :=
  match h : ruleFor? s.phrase with
  | some r => some (ofRule r (List.mem_of_find?_eq_some h) s.data)
  | none => none

def lines (i : Instruction) : List String := i.rule.lines (i.data.getD "")

end Instruction

def instructions (p : Plan) : List Instruction := p.steps.filterMap Instruction.ofStep?

def blocks (is : List Instruction) : String := unlines (is.flatMap Instruction.lines)

section Rules

variable {r r' : Rule}

/-- The texts that an action puts into its lines beside the data. -/
def Action.texts : Action → List String
  | .navigate => []
  | .fill placeholder => [placeholder]
  | .clickRole role name => [role, name]
  | .clickText text | .expectText text => [text]
  | .expectPage pattern heading => [pattern, heading]

theorem Action.isLine_lines {a : Action} (ha : ∀ t ∈ a.texts, IsLine t) {data : String}
    (hdata : IsLine data) : ∀ l ∈ a.lines data, IsLine l := by
  cases a <;> simp_all [Action.texts, Action.lines] <;> simp [IsLine]

theorem isLine_lines (hr : r ∈ rules) (data : String) : ∀ l ∈ r.lines data, IsLine l := by
  have htexts : ∀ r ∈ rules, IsLine r.announce ∧ ∀ t ∈ r.action.texts, IsLine t := by
    decide +kernel
  obtain ⟨hannounce, haction⟩ := htexts r hr
  have hindent : IsLine indent := by decide +kernel
  intro l hl
  obtain ⟨l', hl', rfl⟩ := List.mem_map.mp hl
  refine isLine_append.mpr ⟨hindent, ?_⟩
  rcases List.mem_cons.mp hl' with hl' | hl'
  · subst hl'
    simp only [Text.toString_text, isLine_append]
    exact ⟨⟨by decide +kernel, hannounce⟩, by decide +kernel⟩
  · exact Action.isLine_lines haction (isLine_escape data) l' hl'

theorem announce_injective (hr : r ∈ rules) (hr' : r' ∈ rules) (h : r.announce = r'.announce) :
    r = r' := by
  have hrules : (rules.map Rule.announce).Nodup := by decide
  exact List.inj_on_of_nodup_map hrules hr hr' h

theorem lines_of_not_usesData (h : r.action.usesData = false) (data data' : String) :
    r.lines data = r.lines data' := by
  rw [Rule.lines, Rule.lines]
  cases ha : r.action <;> simp_all [Action.usesData, Action.lines]

/-- A rule that uses the data has one line for its action, in which they stand as a literal. -/
theorem lines_of_usesData (h : r.action.usesData = true) :
    ∃ before, ∀ data, r.lines data =
      [indent ++ s!"print(\"Step: {r.announce}\")",
        before ++ "\"" ++ (escape data ++ "\")")] := by
  cases ha : r.action with
  | navigate =>
    refine ⟨indent ++ "await page.goto(", fun data => ?_⟩
    simp [Rule.lines, Action.lines, ha, ← String.toList_inj]
  | fill placeholder =>
    refine ⟨indent ++ s!"await page.get_by_placeholder(\"{placeholder}\").fill(",
      fun data => ?_⟩
    simp [Rule.lines, Action.lines, ha, ← String.toList_inj]
  | _ => simp [ha, Action.usesData] at h

end Rules

namespace Instruction

variable {i j : Instruction}

theorem lines_eq (i : Instruction) : ∃ ls, i.lines =
    (indent ++ s!"print(\"Step: {i.rule.announce}\")") :: ls :=
  ⟨_, rfl⟩

theorem isLine_lines (i : Instruction) : ∀ l ∈ i.lines, IsLine l :=
  Script.isLine_lines i.listed _

/-- The lines of an instruction tell what it is and where it ends. -/
theorem lines_append_inj {ls ls' : List String} (h : i.lines ++ ls = j.lines ++ ls') : i = j := by
  obtain ⟨r, d, hr, hd⟩ := i
  obtain ⟨r', d', hr', hd'⟩ := j
  have hrule : r = r' := by
    refine announce_injective hr hr' ?_
    have hfirst := (List.cons.inj h).1
    simpa [String.append_assoc] using hfirst
  subst hrule
  cases hu : r.action.usesData with
  | false =>
    rw [hu] at hd hd'
    rw [Option.isSome_eq_false_iff, Option.isNone_iff_eq_none] at hd hd'
    subst hd hd'
    rfl
  | true =>
    rw [hu] at hd hd'
    obtain ⟨d, rfl⟩ := Option.isSome_iff_exists.mp hd
    obtain ⟨d', rfl⟩ := Option.isSome_iff_exists.mp hd'
    obtain ⟨before, hlines⟩ := lines_of_usesData hu
    have hescape : escape d = escape d' ∧ ls = ls' := by simpa [lines, hlines] using h
    rw [escape_injective hescape.1]

end Instruction

section Blocks

variable {i j : Instruction} {is js : List Instruction} {s t : String}

@[simp] theorem blocks_nil : blocks [] = "" := rfl

theorem blocks_cons (i : Instruction) (is : List Instruction) :
    blocks (i :: is) = unlines i.lines ++ blocks is := by
  simp [blocks]

theorem blocks_append (is js : List Instruction) : blocks (is ++ js) = blocks is ++ blocks js := by
  simp [blocks]

theorem splitLines_blocks_cons (i : Instruction) (is : List Instruction) (s : String) :
    splitLines (blocks (i :: is) ++ s) = i.lines ++ splitLines (blocks is ++ s) := by
  rw [blocks_cons, String.append_assoc, Text.splitLines_unlines_append i.isLine_lines]

/-- A text can begin with the block of one instruction only. -/
theorem blocks_cons_inj (h : blocks (i :: is) ++ s = blocks (j :: js) ++ t) :
    i = j ∧ blocks is ++ s = blocks js ++ t := by
  have hlines := congrArg splitLines h
  rw [splitLines_blocks_cons, splitLines_blocks_cons] at hlines
  obtain rfl := Instruction.lines_append_inj hlines
  rw [blocks_cons, blocks_cons, String.append_assoc, String.append_assoc,
    String.append_right_inj] at h
  exact ⟨rfl, h⟩

/-- No block is taken for the end of the script. -/
theorem blocks_cons_ne_epilogue : blocks (i :: is) ++ s ≠ epilogue ++ t := by
  -- both begin by printing a literal, but a block announces a step and the epilogue a result
  obtain ⟨ls, hi⟩ := i.lines_eq
  obtain ⟨line, rest, hline, he⟩ : ∃ line rest, epilogueLines.head? = some line ∧
      epilogue = line ++ rest := by
    refine ⟨_, "\n" ++ unlines epilogueLines.tail, rfl, ?_⟩
    rw [epilogue, epilogueLines, unlines_cons, String.append_assoc, List.tail_cons]
  intro h
  have hchars := congrArg String.toList h
  simp only [epilogueLines, List.head?_cons, Option.some.injEq] at hline
  subst hline
  simp [blocks_cons, hi, he, indent] at hchars

theorem blocks_append_epilogue (is js : List Instruction) (rest : String) :
    blocks is ++ epilogue = blocks js ++ rest ↔
      ∃ left, is = js ++ left ∧ rest = blocks left ++ epilogue := by
  constructor
  · intro h
    induction js generalizing is with
    | nil => exact ⟨is, rfl, by simpa using h.symm⟩
    | cons j js ih =>
      cases is with
      | nil =>
        rw [blocks_nil, String.empty_append, ← String.append_empty (s := epilogue)] at h
        exact absurd h.symm blocks_cons_ne_epilogue
      | cons i is =>
        obtain ⟨rfl, hrest⟩ := blocks_cons_inj h
        obtain ⟨left, rfl, rfl⟩ := ih is hrest
        exact ⟨left, rfl, rfl⟩
  · rintro ⟨left, rfl, rfl⟩
    rw [blocks_append, String.append_assoc]

end Blocks

section Plans

theorem Instruction.lines_ofRule (r : Rule) (listed : r ∈ rules) (data : String) :
    (ofRule r listed data).lines = r.lines data := by
  change r.lines ((if r.action.usesData then some data else none).getD "") = r.lines data
  cases hu : r.action.usesData with
  | false => exact lines_of_not_usesData hu _ _
  | true => rfl

theorem stepLines_eq (s : Step) :
    stepLines s = ((Instruction.ofStep? s).map Instruction.lines).getD [] := by
  unfold stepLines Instruction.ofStep?
  split
  · next r hr =>
    split
    · next r' hr' =>
      obtain rfl : r = r' := Option.some.inj (hr.symm.trans hr')
      exact (Instruction.lines_ofRule r _ s.data).symm
    · next hr' => simp [hr] at hr'
  · next hr =>
    split
    · next r' hr' => simp [hr] at hr'
    · rfl

theorem lines_eq (p : Plan) :
    lines p = prologueLines ++ (instructions p).flatMap Instruction.lines ++ epilogueLines := by
  have hsteps (ss : List Step) : ss.flatMap stepLines =
      (ss.filterMap Instruction.ofStep?).flatMap Instruction.lines := by
    induction ss with
    | nil => rfl
    | cons s ss ih =>
      rw [List.flatMap_cons, ih, stepLines_eq, List.filterMap_cons]
      cases Instruction.ofStep? s <;> rfl
  rw [lines, hsteps, instructions]

theorem ofPlan_eq (p : Plan) : ofPlan p = prologue ++ blocks (instructions p) ++ epilogue := by
  rw [ofPlan, lines_eq, unlines_append, unlines_append, prologue, blocks, epilogue]

/-- A script is read in one way only: two plans have the same script just if they have the same
instructions. Whatever blocks are found at the start of a script are its first instructions, and an
epilogue behind them is its end. -/
theorem ofPlan_uniquely_readable (p : Plan) :
    (∀ q, ofPlan p = ofPlan q ↔ instructions p = instructions q) ∧
    (∀ is rest, ofPlan p = prologue ++ blocks is ++ rest ↔
      ∃ left, instructions p = is ++ left ∧ rest = blocks left ++ epilogue) ∧
    ∀ is rest, ofPlan p = prologue ++ blocks is ++ epilogue ++ rest ↔
      instructions p = is ∧ rest = "" := by
  have hfound (is : List Instruction) (rest : String) :
      ofPlan p = prologue ++ blocks is ++ rest ↔
        ∃ left, instructions p = is ++ left ∧ rest = blocks left ++ epilogue := by
    rw [ofPlan_eq, String.append_assoc, String.append_assoc, String.append_right_inj,
      blocks_append_epilogue]
  have hends (is : List Instruction) (rest : String) :
      ofPlan p = prologue ++ blocks is ++ epilogue ++ rest ↔
        instructions p = is ∧ rest = "" := by
    rw [String.append_assoc, hfound]
    constructor
    · rintro ⟨left, hp, hrest⟩
      cases left with
      | nil => exact ⟨by simpa using hp, by simpa using hrest⟩
      | cons i left => exact absurd hrest.symm blocks_cons_ne_epilogue
    · rintro ⟨rfl, rfl⟩
      exact ⟨[], by simp⟩
  refine ⟨fun q => ?_, hfound, hends⟩
  have hq := hends (instructions q) ""
  rwa [String.append_empty, ← ofPlan_eq, eq_self_iff_true, and_true] at hq

/-- Data that look like the end of their literal and a further call stay in the literal. -/
theorem ofPlan_uniquely_readable_username :
    let phrase := "When the user enters the username"
    let p : Plan := ⟨none, [⟨phrase, "a\").fill(\"b"⟩]⟩
    let q : Plan := ⟨none, [⟨phrase, "a"⟩, ⟨phrase, "b"⟩]⟩
    let block := "            print(\"Step: Entering username...\")\n" ++
      "            await page.get_by_placeholder(\"Username\").fill(\"a\\\").fill(\\\"b\")\n"
    ofPlan p = prologue ++ block ++ epilogue ∧
      (instructions p).map (fun i => (i.rule.announce, i.data)) =
        [("Entering username...", some "a\").fill(\"b")] ∧
      ofPlan p ≠ ofPlan q := by
  intro phrase p q block
  obtain ⟨hsame, -, hends⟩ := ofPlan_uniquely_readable p
  have hscript := (hends (instructions p) "").mpr ⟨rfl, rfl⟩
  have hblocks : blocks (instructions p) = block := by decide +kernel
  refine ⟨?_, by decide +kernel, fun heq => ?_⟩
  · rwa [hblocks, String.append_empty] at hscript
  · have hlength := congrArg List.length ((hsame q).mp heq)
    exact absurd hlength (by decide +kernel)

end Plans

end Testbed.Script
