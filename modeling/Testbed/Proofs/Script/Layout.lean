import Testbed.Proofs.Script.Instruction

/-!
# The lines of a script

Test data stay inside the literal in which they are written and keep their value there, so they
cannot add a line to a script or take one away. A script is made of the lines of its prologue, of as
many lines for each recognized step as its rule has, and of the lines of its epilogue.
-/

namespace Testbed.Script

open Text (IsLine splitLines unlines)

def Action.height : Action → ℕ
  | .expectPage _ _ => 3
  | _ => 1

/-- The announcement of a step has a line of its own. -/
def Rule.height (r : Rule) : ℕ := 1 + r.action.height

def recognized (p : Plan) : List (Rule × String) :=
  p.steps.filterMap fun s => (ruleFor? s.phrase).map (·, s.data)

def stepBlocks (p : Plan) : List (List String) := (recognized p).map fun x => x.1.lines x.2

section Heights

variable (r : Rule) (data : String)

theorem Action.length_lines (a : Action) : (a.lines data).length = a.height := by
  cases a <;> rfl

theorem Rule.length_lines : (r.lines data).length = r.height := by
  rw [Rule.lines, List.length_map, List.length_cons, Action.length_lines, Rule.height,
    Nat.add_comm]

example : rules.map Rule.height = [2, 2, 2, 2, 2, 4, 2] := by decide

variable {r}

/-- Behind the quote that opens it, a literal is read as the data, up to the quote that is there to
close it. -/
theorem exists_literal (h : r.action.usesData = true) :
    ∃ before, ∀ data, ∃ literal, readLiteral literal.toList = some (data.toList, [')']) ∧
      r.lines data = [indent ++ s!"print(\"Step: {r.announce}\")", before ++ "\"" ++ literal] := by
  obtain ⟨before, hlines⟩ := lines_of_usesData h
  refine ⟨before, fun data => ⟨escape data ++ "\")", ?_, hlines data⟩⟩
  rw [String.toList_append]
  exact readLiteral_escape data [')']

end Heights

section Lines

variable (p : Plan)

theorem flatMap_stepLines : p.steps.flatMap stepLines = (stepBlocks p).flatten := by
  have hsteps (ss : List Step) : ss.flatMap stepLines =
      ((ss.filterMap fun s => (ruleFor? s.phrase).map (·, s.data)).map
        fun x => x.1.lines x.2).flatten := by
    induction ss with
    | nil => rfl
    | cons s ss ih =>
      rw [List.flatMap_cons, ih, List.filterMap_cons, stepLines]
      cases ruleFor? s.phrase <;> rfl
  exact hsteps p.steps

theorem isLine_of_mem_lines : ∀ l ∈ lines p, IsLine l := by
  have hprologue : ∀ l ∈ prologueLines, IsLine l := by decide +kernel
  have hepilogue : ∀ l ∈ epilogueLines, IsLine l := by decide +kernel
  intro l hl
  rw [lines_eq, List.mem_append, List.mem_append] at hl
  rcases hl with (hl | hl) | hl
  · exact hprologue l hl
  · obtain ⟨i, -, hi⟩ := List.mem_flatMap.mp hl
    exact i.isLine_lines l hi
  · exact hepilogue l hl

/-- A script is cut at its line ends into its lines; nothing is behind the last line end. -/
theorem splitLines_ofPlan : splitLines (ofPlan p) = lines p ++ [""] := by
  have h := Text.splitLines_unlines_append (isLine_of_mem_lines p) ""
  rwa [String.append_empty] at h

end Lines

/-- Data that are written as a literal are read back as they were, up to the quote that ends the
literal and whatever stands behind it. So the data of a step change neither the number of its lines
nor what follows them: a script is cut into the lines of its prologue, the blocks of its recognized
steps, each of the height that its rule has, and the lines of its epilogue. -/
theorem data_stay_in_literals :
    (∀ (d : String) (s : List Char),
      readLiteral ((escape d).toList ++ '"' :: s) = some (d.toList, s)) ∧
    (∀ r ∈ rules, r.action.usesData = true → ∃ before, ∀ data, ∃ literal,
      readLiteral literal.toList = some (data.toList, [')']) ∧
        r.lines data =
          [indent ++ s!"print(\"Step: {r.announce}\")", before ++ "\"" ++ literal]) ∧
    ∀ p : Plan,
      splitLines (ofPlan p) =
        prologueLines ++ (stepBlocks p).flatten ++ epilogueLines ++ [""] ∧
      (stepBlocks p).map List.length = (recognized p).map (·.1.height) ∧
      ∀ l ∈ splitLines (ofPlan p), '\r' ∉ l.toList := by
  refine ⟨readLiteral_escape, fun r _ h => exists_literal h, fun p => ⟨?_, ?_, ?_⟩⟩
  · rw [splitLines_ofPlan, lines, flatMap_stepLines]
  · rw [stepBlocks, List.map_map]
    exact List.map_congr_left fun x _ => x.1.length_lines x.2
  · intro l hl
    rw [splitLines_ofPlan, List.mem_append, List.mem_singleton] at hl
    rcases hl with hl | rfl
    · exact (isLine_of_mem_lines p l hl).2
    · exact List.not_mem_nil

/-- A quote, a bracket and a line end stay in the literal too. -/
theorem data_stay_in_literals_quote : ∃ r ∈ rules, r.action.usesData = true ∧
    r.lines "\")\n#\\" = [indent ++ "print(\"Step: Entering username...\")",
      indent ++ "await page.get_by_placeholder(\"Username\").fill(\"\\\")\\n#\\\\\")"] ∧
    ∃ before literal, r.lines "\")\n#\\" =
        [indent ++ s!"print(\"Step: {r.announce}\")", before ++ "\"" ++ literal] ∧
      readLiteral literal.toList = some ("\")\n#\\".toList, [')']) := by
  have hmem : rules[1] ∈ rules := List.getElem_mem _
  obtain ⟨-, hrules, -⟩ := data_stay_in_literals
  obtain ⟨before, hlines⟩ := hrules rules[1] hmem rfl
  obtain ⟨literal, hread, hlines⟩ := hlines "\")\n#\\"
  exact ⟨rules[1], hmem, rfl, by decide +kernel, before, literal, hlines, hread⟩

end Testbed.Script
