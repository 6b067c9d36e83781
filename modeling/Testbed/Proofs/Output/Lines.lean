import Mathlib.Data.List.Forall2
import Mathlib.Logic.Relation
import Testbed.Output
import Testbed.Proofs.Text.Trim

/-!
# The lines of an output

The entries of an output are those of its lines. Texts with a line end between them are read each on
its own, and from this one equation follows what does not matter to the entries: blanks at the ends
of a line, the spelling of line ends, and lines that are blank throughout. Every other line has an
entry with its trimmed text, which came out as its marks say.
-/

namespace Testbed.Output

open Log (Entry Status)
open Text (IsBlankText IsTrimOf cut isBlank occurs)

/-- How a line came out, by the marks that stand in it. -/
structure IsJudged (line : List Char) (st : Status) : Prop where
  success : st = .success ↔ passMark.toList <:+: line
  error : st = .error ↔ failMark.toList <:+: line ∧ ¬passMark.toList <:+: line
  info : st = .info ↔ ¬failMark.toList <:+: line ∧ ¬passMark.toList <:+: line

structure IsEntryOf (line : List Char) (e : Entry) : Prop where
  stamp : e.stamp = .now
  trim : IsTrimOf line e.message.toList
  judged : IsJudged line e.status

structure IsTidy (e : Entry) : Prop where
  ne_nil : e.message.toList ≠ []
  lineEnd : '\n' ∉ e.message.toList
  head : ∀ c ∈ e.message.toList.head?, isBlank c = false
  last : ∀ c ∈ e.message.toList.getLast?, isBlank c = false
  judged : IsJudged e.message.toList e.status

def IsPadding (w : List Char) : Prop := ∀ c ∈ w, isBlank c = true ∧ c ≠ '\n'

def EndsLine (a : String) : Prop := a = "" ∨ ∃ t, a = t ++ "\n"

def StartsLine (b : String) : Prop := b = "" ∨ ∃ t, b = "\n" ++ t

/-- White space is put into a text at one place, beside a line or as a line of its own. -/
inductive Respaced : String → String → Prop where
  | front {a b w : String} (ha : EndsLine a) (hw : IsPadding w.toList) :
    Respaced (a ++ b) (a ++ w ++ b)
  | back {a b w : String} (hb : StartsLine b) (hw : IsPadding w.toList) :
    Respaced (a ++ b) (a ++ w ++ b)
  | lineEnd (a b : String) : Respaced (a ++ "\n" ++ b) (a ++ "\r\n" ++ b)
  | line {a b w : String} (ha : EndsLine a) (hw : IsPadding w.toList) :
    Respaced (a ++ b) (a ++ w ++ "\n" ++ b)
  | lastLine {a w : String} (hw : IsPadding w.toList) : Respaced a (a ++ "\n" ++ w)

section Marks

theorem statusOf_trim (l : List Char) : statusOf (Text.trim l) = statusOf l := by
  rw [statusOf, statusOf, Text.occurs_trim (by decide) (by decide),
    Text.occurs_trim (by decide) (by decide)]

theorem statusOf_eq_error {l : List Char} :
    statusOf l = .error ↔ occurs failMark.toList l = true ∧ occurs passMark.toList l = false := by
  rw [statusOf]
  split_ifs with hpass hfail <;> simp_all

theorem isError_entryOf {l : List Char} : (entryOf l).isError = true ↔ statusOf l = .error := by
  rw [entryOf, Entry.isError, Entry.ofNow]
  cases statusOf l <;> simp [Status.isError]

theorem isJudged_statusOf (l : List Char) : IsJudged l (statusOf l) := by
  rw [statusOf]
  by_cases hpass : passMark.toList <:+: l
  · rw [if_pos (Text.occurs_iff_infix.mpr hpass)]
    constructor <;> simp [hpass]
  · rw [if_neg (mt Text.occurs_iff_infix.mp hpass)]
    by_cases hfail : failMark.toList <:+: l
    · rw [if_pos (Text.occurs_iff_infix.mpr hfail)]
      constructor <;> simp [hpass, hfail]
    · rw [if_neg (mt Text.occurs_iff_infix.mp hfail)]
      constructor <;> simp [hpass, hfail]

theorem isEntryOf_entryOf_trim (l : List Char) : IsEntryOf l (entryOf (Text.trim l)) := by
  refine ⟨rfl, ?_, ?_⟩
  · rw [entryOf, Entry.ofNow, String.toList_ofList]
    exact Text.isTrimOf_trim l
  · rw [entryOf, Entry.ofNow, statusOf_trim]
    exact isJudged_statusOf l

end Marks

section Lines

variable {l w w' : List Char}

theorem trimmedLines_append (a b : List Char) :
    trimmedLines (a ++ '\n' :: b) = trimmedLines a ++ trimmedLines b := by
  rw [trimmedLines, Text.cut_append_sep, List.map_append, List.filter_append, trimmedLines,
    trimmedLines]

theorem trimmedLines_of_line (h : '\n' ∉ l) :
    trimmedLines l = [Text.trim l].filter (!·.isEmpty) := by
  rw [trimmedLines, Text.cut_of_not_mem h, List.map_singleton]

/-- The trimmed lines are those of the lines that are not blank. -/
theorem trimmedLines_eq (s : List Char) :
    trimmedLines s = ((cut '\n' s).filter (¬IsBlankText ·)).map Text.trim := by
  rw [trimmedLines, List.filter_map]
  refine congrArg (List.map Text.trim) (List.filter_congr fun l _ => ?_)
  rw [Function.comp_apply, Bool.eq_iff_iff, decide_eq_true_iff, ← Text.trim_eq_nil_iff]
  simp

theorem isPadding_nil : IsPadding [] := by simp [IsPadding]

theorem IsPadding.isBlankText (h : IsPadding w) : IsBlankText w := fun c hc => (h c hc).1

theorem IsPadding.not_mem (h : IsPadding w) : '\n' ∉ w := fun hmem => (h '\n' hmem).2 rfl

theorem trimmedLines_padded (hl : '\n' ∉ l) (hw : IsPadding w) (hw' : IsPadding w') :
    trimmedLines (w ++ l ++ w') = trimmedLines l := by
  have hline : '\n' ∉ w ++ l ++ w' := by simp [hl, hw.not_mem, hw'.not_mem]
  rw [trimmedLines_of_line hline, trimmedLines_of_line hl,
    Text.trim_blanks hw.isBlankText hw'.isBlankText]

theorem trimmedLines_front (hw : IsPadding w) (s : List Char) :
    trimmedLines (w ++ s) = trimmedLines s := by
  by_cases h : '\n' ∈ s
  · obtain ⟨l, r, rfl, hl⟩ := List.eq_append_cons_of_mem h
    have hfirst := trimmedLines_padded hl hw isPadding_nil
    rw [List.append_nil] at hfirst
    rw [← List.append_assoc, trimmedLines_append, hfirst, trimmedLines_append]
  · have hfirst := trimmedLines_padded h hw isPadding_nil
    rwa [List.append_nil] at hfirst

theorem trimmedLines_back (hw : IsPadding w) (s : List Char) :
    trimmedLines (s ++ w) = trimmedLines s := by
  by_cases h : '\n' ∈ s
  · obtain ⟨r, l, rfl, hl⟩ := Text.exists_last_line h
    have hlast := trimmedLines_padded hl isPadding_nil hw
    rw [List.nil_append] at hlast
    rw [List.append_assoc, List.cons_append, trimmedLines_append, hlast, trimmedLines_append]
  · exact trimmedLines_padded h isPadding_nil hw

end Lines

section Texts

variable {a b w s s' : String} {e : Entry}

theorem entries_append_newline (a b : String) :
    entries (a ++ "\n" ++ b) = entries a ++ entries b := by
  have hchars : (a ++ "\n" ++ b).toList = a.toList ++ '\n' :: b.toList := by simp
  rw [entries, hchars, trimmedLines_append, List.map_append, entries, entries]

theorem entries_empty : entries "" = [] := by decide +kernel

theorem EndsLine.entries_append (h : EndsLine a) (b : String) :
    entries (a ++ b) = entries a ++ entries b := by
  obtain rfl | ⟨t, rfl⟩ := h
  · rw [String.empty_append, entries_empty, List.nil_append]
  · have hfirst := entries_append_newline t ""
    rw [String.append_empty, entries_empty, List.append_nil] at hfirst
    rw [entries_append_newline, hfirst]

theorem StartsLine.entries_append (h : StartsLine b) (a : String) :
    entries (a ++ b) = entries a ++ entries b := by
  obtain rfl | ⟨t, rfl⟩ := h
  · rw [String.append_empty, entries_empty, List.append_nil]
  · have hrest := entries_append_newline "" t
    rw [String.empty_append, entries_empty, List.nil_append] at hrest
    rw [← String.append_assoc, entries_append_newline, hrest]

theorem entries_front (hw : IsPadding w.toList) (s : String) : entries (w ++ s) = entries s := by
  rw [entries, String.toList_append, trimmedLines_front hw, entries]

theorem entries_back (hw : IsPadding w.toList) (s : String) : entries (s ++ w) = entries s := by
  rw [entries, String.toList_append, trimmedLines_back hw, entries]

theorem entries_of_isPadding (hw : IsPadding w.toList) : entries w = [] := by
  have h := entries_back hw ""
  rwa [String.empty_append, entries_empty] at h

theorem Respaced.entries_eq (h : Respaced s s') : entries s' = entries s := by
  cases h with
  | @front a b w ha hw =>
    rw [String.append_assoc, ha.entries_append, entries_front hw, ha.entries_append]
  | @back a b w hb hw => rw [hb.entries_append, entries_back hw, hb.entries_append]
  | lineEnd a b =>
    have hreturn : IsPadding "\r".toList := by simp [IsPadding, isBlank]
    have hsplit : "\r\n" = "\r" ++ "\n" := by decide
    rw [hsplit, ← String.append_assoc, entries_append_newline, entries_back hreturn,
      entries_append_newline]
  | @line a b w ha hw =>
    rw [String.append_assoc, String.append_assoc, ha.entries_append, ← String.append_assoc,
      entries_append_newline, entries_of_isPadding hw, List.nil_append, ha.entries_append]
  | @lastLine a w hw =>
    rw [entries_append_newline, entries_of_isPadding hw, List.append_nil]

theorem entries_eq_of_respaced (h : Relation.ReflTransGen Respaced s s') :
    entries s' = entries s := by
  induction h with
  | refl => rfl
  | tail _ hlast ih => rw [hlast.entries_eq, ih]

theorem forall₂_entries (s : String) :
    List.Forall₂ IsEntryOf ((s.toList.splitOn '\n').filter (¬IsBlankText ·)) (entries s) := by
  rw [entries, trimmedLines_eq, List.map_map, ← Text.cut_eq_splitOn, List.forall₂_map_right_iff,
    List.forall₂_same]
  exact fun l _ => isEntryOf_entryOf_trim l

theorem exists_line_of_mem (h : e ∈ entries s) :
    ∃ l, '\n' ∉ l ∧ ¬IsBlankText l ∧ e = entryOf (Text.trim l) := by
  rw [entries, trimmedLines_eq, List.map_map] at h
  obtain ⟨l, hl, rfl⟩ := List.mem_map.mp h
  obtain ⟨hl, hblank⟩ := List.mem_filter.mp hl
  exact ⟨l, Text.not_mem_of_mem_cut hl, by simpa using hblank, rfl⟩

theorem isTidy_of_mem (h : e ∈ entries s) : IsTidy e := by
  obtain ⟨l, hline, hblank, rfl⟩ := exists_line_of_mem h
  have hmessage : (entryOf (Text.trim l)).message.toList = Text.trim l := String.toList_ofList
  obtain ⟨⟨before, after, hl, -, -⟩, hhead, hlast⟩ := Text.isTrimOf_trim l
  constructor
  · rw [hmessage]
    exact mt Text.trim_eq_nil_iff.mp hblank
  · rw [hmessage]
    intro hmem
    apply hline
    rw [hl]
    simp [hmem]
  · rwa [hmessage]
  · rwa [hmessage]
  · rw [hmessage]
    exact isJudged_statusOf _

end Texts

/-- Outputs with a line end between them have the entries of the one and then of the other. An
output has one entry for each of its lines that is not blank, in their order: the trimmed text of the
line, which is not empty, stays on its line and has no blank at its ends, and a status by the marks
in it. White space at the ends of lines, other line ends and blank lines, put in wherever and as
often as one likes, change nothing. -/
theorem entries_line_by_line :
    (∀ a b : String, entries (a ++ "\n" ++ b) = entries a ++ entries b) ∧
    (∀ s : String,
      List.Forall₂ IsEntryOf ((s.toList.splitOn '\n').filter (¬IsBlankText ·)) (entries s) ∧
      ∀ e ∈ entries s, IsTidy e) ∧
    ∀ s s' : String, Relation.ReflTransGen Respaced s s' → entries s' = entries s := by
  refine ⟨entries_append_newline, fun s => ⟨forall₂_entries s, fun e he => isTidy_of_mem he⟩, ?_⟩
  exact fun s s' h => entries_eq_of_respaced h

/-- Two lines, with a carriage return and a blank line put in. -/
theorem entries_line_by_line_crlf :
    let passed : Entry := ⟨.now, "Test Passed", .success⟩
    let failed : Entry := ⟨.now, "Test Failed - x", .error⟩
    passed ∈ entries "Test Passed\nTest Failed - x" ∧ IsTidy passed ∧
      Relation.ReflTransGen Respaced "Test Passed\nTest Failed - x"
        "\t\nTest Passed\r\nTest Failed - x" ∧
      entries "\t\nTest Passed\r\nTest Failed - x" = [passed, failed] := by
  intro passed failed
  have hentries : entries "Test Passed\nTest Failed - x" = [passed, failed] := by decide +kernel
  have hpassed : passed ∈ entries "Test Passed\nTest Failed - x" := by
    rw [hentries]
    exact List.mem_cons_self
  have htab : IsPadding "\t".toList := by simp [IsPadding, isBlank]
  have hreturn : Respaced "Test Passed\nTest Failed - x" "Test Passed\r\nTest Failed - x" :=
    .lineEnd "Test Passed" "Test Failed - x"
  have hblank : Respaced "Test Passed\r\nTest Failed - x"
      "\t\nTest Passed\r\nTest Failed - x" :=
    .line (a := "") (b := "Test Passed\r\nTest Failed - x") (w := "\t") (.inl rfl) htab
  have hboth := (Relation.ReflTransGen.single hreturn).tail hblank
  obtain ⟨-, hlines, hrespaced⟩ := entries_line_by_line
  refine ⟨hpassed, (hlines _).2 passed hpassed, hboth, ?_⟩
  rw [hrespaced _ _ hboth, hentries]

end Testbed.Output
