import Testbed.Proofs.Output.Lines
import Testbed.Proofs.Script.Instruction

/-!
# What a script prints

A script announces each of its steps and prints a line of success at its end. When a step raises,
nothing more is announced and the text of the exception is printed behind a mark of failure. The
output is judged line by line and a mark of success counts before a mark of failure, so that a
failure is seen just if the exception's text does not hide it.
-/

namespace Testbed.Script

open Output (entries failMark isError_entryOf passMark statusOf statusOf_eq_error statusOf_trim
  trimmedLines)
open Text (IsLine isLine_append occurs splitLines unlines)

/-- What a line of a script prints, if all it does is to print a literal. -/
def printed? (line : String) : Option String := do
  let rest ← "print(\"".toList.isPrefixOf? (line.toList.dropWhile (· == ' '))
  let (text, rest) ← readLiteral rest
  if rest = [')'] then some (String.ofList text) else none

/-- The lines that a script prints if no step raises. -/
def prints (p : Plan) : List String := (lines p).filterMap printed?

def Instruction.announcement (i : Instruction) : String := s!"Step: {i.rule.announce}"

def passLine : String := "Test Passed - Execution completed successfully."

def failLead : String := "Test Failed - An error occurred: "

def failLine (e : String) : String := failLead ++ e

structure Raise (p : Plan) where
  step : Fin (instructions p).length
  text : String

def output (p : Plan) : Option (Raise p) → String
  | none => unlines (prints p)
  | some x => unlines ((prints p).take (x.step + 1)) ++ failLine x.text ++ "\n"

/-- The text of the exception leaves the failure to be seen: the line behind the mark of failure
does not hold the mark of success, or a later one holds the mark of failure alone. -/
def Raise.Visible {p : Plan} (x : Raise p) : Prop :=
  occurs passMark.toList ((splitLines x.text).headD "").toList = false ∨
    ∃ l ∈ (splitLines x.text).tail,
      occurs failMark.toList l.toList = true ∧ occurs passMark.toList l.toList = false

section Prints

theorem printed?_literal (t : String) :
    printed? (indent ++ s!"print(\"{escape t}\")") = some t := by
  simp [printed?, indent, List.isPrefixOf?, readLiteral_escape]

/-- What is announced needs no escape, stays on its line and is not taken for a failure. -/
theorem announcement_harmless (i : Instruction) :
    escape i.announcement = i.announcement ∧
      IsLine i.announcement ∧ statusOf i.announcement.toList ≠ .error := by
  have hrules : ∀ r ∈ rules, escape s!"Step: {r.announce}" = s!"Step: {r.announce}" ∧
      IsLine s!"Step: {r.announce}" ∧ statusOf (s!"Step: {r.announce}").toList ≠ .error := by
    decide +kernel
  exact hrules i.rule i.listed

theorem printed?_action (a : Action) (data : String) :
    ∀ l ∈ a.lines data, printed? (indent ++ l) = none := by
  cases a <;> simp [Action.lines, printed?, indent]

theorem filterMap_printed?_lines (i : Instruction) :
    i.lines.filterMap printed? = [i.announcement] := by
  have hannounce : printed? (indent ++ s!"print(\"Step: {i.rule.announce}\")") =
      some i.announcement := by
    have h := printed?_literal i.announcement
    rwa [(announcement_harmless i).1] at h
  have haction : ((i.rule.action.lines (escape (i.data.getD ""))).map (indent ++ ·)).filterMap
      printed? = [] := by
    simpa [List.filterMap_eq_nil_iff] using printed?_action i.rule.action _
  rw [Instruction.lines, Rule.lines, List.map_cons, List.filterMap_cons, hannounce, haction]

/-- Around its steps a script prints its success, and nothing else. -/
theorem filterMap_printed?_frame :
    prologueLines.filterMap printed? = [] ∧ epilogueLines.filterMap printed? = [passLine] := by
  decide +kernel

theorem prints_eq (p : Plan) :
    prints p = (instructions p).map Instruction.announcement ++ [passLine] := by
  obtain ⟨hprologue, hepilogue⟩ := filterMap_printed?_frame
  have hblocks (is : List Instruction) :
      (is.flatMap Instruction.lines).filterMap printed? = is.map Instruction.announcement := by
    induction is with
    | nil => rfl
    | cons i is ih =>
      rw [List.flatMap_cons, List.filterMap_append, filterMap_printed?_lines, ih, List.map_cons,
        List.singleton_append]
  rw [prints, lines_eq, List.filterMap_append, List.filterMap_append, hprologue, hepilogue, hblocks,
    List.nil_append]

end Prints

section Verdict

/-- Blank lines and the blanks around a line do not matter to the verdict. -/
theorem any_isError_entries (s : String) :
    (entries s).any (·.isError) = true ↔ ∃ l ∈ splitLines s, statusOf l.toList = .error := by
  simp only [entries, trimmedLines, splitLines, List.any_map, List.any_eq_true, List.mem_filter,
    Function.comp_apply, isError_entryOf]
  constructor
  · rintro ⟨_, ⟨hmem, -⟩, herror⟩
    obtain ⟨l, hl, rfl⟩ := List.mem_map.mp hmem
    rw [statusOf_trim] at herror
    exact ⟨String.ofList l, List.mem_map_of_mem hl, by rwa [String.toList_ofList]⟩
  · rintro ⟨_, hmem, herror⟩
    obtain ⟨l, hl, rfl⟩ := List.mem_map.mp hmem
    rw [String.toList_ofList, ← statusOf_trim] at herror
    have hne : Text.trim l ≠ [] := fun h => by
      rw [h] at herror
      exact absurd herror (by decide)
    exact ⟨Text.trim l, ⟨List.mem_map_of_mem hl, by simpa using hne⟩, herror⟩

/-- No line that a script prints of itself is taken for a failure. -/
theorem prints_harmless {p : Plan} {l : String} (hl : l ∈ prints p) :
    IsLine l ∧ statusOf l.toList ≠ .error := by
  rw [prints_eq, List.mem_append, List.mem_map, List.mem_singleton] at hl
  rcases hl with ⟨i, -, rfl⟩ | rfl
  · exact (announcement_harmless i).2
  · decide +kernel

/-- What is printed before the text of an exception holds the mark of failure, and no part of the
mark of success ends there. -/
theorem failLead_marks :
    IsLine failLead ∧ failMark.toList <:+: failLead.toList ∧
      ∀ t ∈ failLead.toList.tails, t ≠ [] → ¬t <+: passMark.toList ∧ ¬passMark.toList <+: t := by
  decide +kernel

/-- The mark of failure stays on the line on which it is printed, and hides no mark of success. -/
theorem statusOf_failLine (e : String) :
    statusOf (failLine e).toList = .error ↔ occurs passMark.toList e.toList = false := by
  obtain ⟨-, hmark, hfront⟩ := failLead_marks
  rw [failLine, String.toList_append, statusOf_eq_error, Text.occurs_append hfront,
    Text.occurs_iff_infix]
  exact and_iff_right (hmark.trans (List.prefix_append _ _).isInfix)

/-- The first line of the exception's text is printed behind the mark, the others as they are. -/
theorem splitLines_failLine (e : String) :
    ∃ first rest, splitLines e = first :: rest ∧
      splitLines (failLine e ++ "\n") = failLine first :: (rest ++ [""]) := by
  obtain ⟨first, rest, he⟩ := List.exists_cons_of_ne_nil (Text.splitLines_ne_nil e)
  refine ⟨first, rest, he, ?_⟩
  rw [← String.append_empty (s := failLine e ++ "\n"), Text.splitLines_append_newline, failLine,
    Text.splitLines_append failLead_marks.1, he, List.modifyHead_cons]
  rfl

theorem exists_error_unlines_append {ls : List String}
    (h : ∀ l ∈ ls, IsLine l ∧ statusOf l.toList ≠ .error) (rest : String) :
    (entries (unlines ls ++ rest)).any (·.isError) = true ↔
      ∃ l ∈ splitLines rest, statusOf l.toList = .error := by
  rw [any_isError_entries, Text.splitLines_unlines_append fun l hl => (h l hl).1]
  constructor
  · rintro ⟨l, hl, herror⟩
    rcases List.mem_append.mp hl with hl | hl
    · exact absurd herror (h l hl).2
    · exact ⟨l, hl, herror⟩
  · rintro ⟨l, hl, herror⟩
    exact ⟨l, List.mem_append_right ls hl, herror⟩

theorem any_isError_output_none (p : Plan) :
    (entries (output p none)).any (·.isError) = false := by
  have h := exists_error_unlines_append (fun l hl => prints_harmless (p := p) hl) ""
  rw [String.append_empty] at h
  rw [output, Bool.eq_false_iff, Ne, h]
  decide

theorem any_isError_output_some {p : Plan} (x : Raise p) :
    (entries (output p (some x))).any (·.isError) = true ↔ x.Visible := by
  obtain ⟨first, rest, he, hlines⟩ := splitLines_failLine x.text
  rw [output, String.append_assoc,
    exists_error_unlines_append fun l hl => prints_harmless (List.mem_of_mem_take hl), hlines]
  have hblank : statusOf "".toList ≠ .error := by decide
  rw [Raise.Visible, he, List.headD_cons, List.tail_cons]
  constructor
  · rintro ⟨l, hl, herror⟩
    rcases List.mem_cons.mp hl with rfl | hl
    · exact .inl ((statusOf_failLine first).mp herror)
    · rcases List.mem_append.mp hl with hl | hl
      · exact .inr ⟨l, hl, statusOf_eq_error.mp herror⟩
      · rw [List.mem_singleton] at hl
        exact absurd (hl ▸ herror) hblank
  · rintro (hfirst | ⟨l, hl, hmarks⟩)
    · exact ⟨_, List.mem_cons_self, (statusOf_failLine first).mpr hfirst⟩
    · exact ⟨l, by simp [hl], statusOf_eq_error.mpr hmarks⟩

/-- A script announces its steps in order and then its success, and has a handler that prints the
text of an exception behind the mark of failure. Its output is judged a failure just if a step
raised and the text of the exception leaves that to be seen. -/
theorem output_judged_failed_iff (p : Plan) (x : Option (Raise p)) :
    prints p = (instructions p).map Instruction.announcement ++ [passLine] ∧
    "            print(f\"" ++ failLine "\x7bstr(e)\x7d" ++ "\")" ∈ lines p ∧
    ((entries (output p x)).any (·.isError) = true ↔ ∃ r, x = some r ∧ r.Visible) := by
  have hhandler :
      "            print(f\"" ++ failLine "\x7bstr(e)\x7d" ++ "\")" ∈ epilogueLines := by
    decide +kernel
  refine ⟨prints_eq p, List.mem_append_right _ hhandler, ?_⟩
  cases x with
  | none => simp [any_isError_output_none]
  | some r =>
    rw [any_isError_output_some]
    simp

/-- A failure is seen behind the announcement of the step that raised it. -/
theorem output_judged_failed_iff_timeout :
    let p : Plan := ⟨none, [⟨"When the user enters the username", "admin"⟩, ⟨"Nap", "1"⟩,
      ⟨"And the user enters the password", "1234"⟩]⟩
    let x : Raise p := ⟨⟨0, by decide⟩, "Timeout\n30000 ms"⟩
    output p (some x) =
        "Step: Entering username...\nTest Failed - An error occurred: Timeout\n30000 ms\n" ∧
      x.Visible ∧ (entries (output p (some x))).any (·.isError) = true := by
  intro p x
  obtain ⟨hprints, -, hfailed⟩ := output_judged_failed_iff p (some x)
  have hvisible : x.Visible := .inl (by decide +kernel)
  refine ⟨?_, hvisible, hfailed.mpr ⟨x, rfl, hvisible⟩⟩
  rw [output, hprints]
  decide +kernel

/-- Page text in an exception can make a failed run look like a passed one. -/
theorem output_hides_failure :
    ¬∀ (p : Plan) (x : Option (Raise p)),
      (entries (output p x)).any (·.isError) = true ↔ x.isSome = true := by
  let p : Plan := ⟨none, [⟨"When the user enters the username", "admin"⟩]⟩
  let x : Raise p := ⟨⟨0, by decide⟩, "Test Passed"⟩
  intro h
  have hvisible : x.Visible := (any_isError_output_some x).mp ((h p (some x)).mpr rfl)
  have hhidden : ¬x.Visible := by
    simp [x, Raise.Visible, splitLines, Text.cut, passMark, occurs]
  exact hhidden hvisible

end Verdict

end Testbed.Script
