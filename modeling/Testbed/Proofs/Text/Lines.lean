import Mathlib.Data.List.Infix
import Testbed.Text.Lines

/-!
# Text in lines

A text that is written line by line can be cut back into its lines, whatever follows it, if no line
holds a line end. Trimming a line neither adds nor removes a mark that begins and ends with
characters that are not blank.
-/

namespace Testbed.Text

def IsLine (s : String) : Prop := '\n' ∉ s.toList ∧ '\r' ∉ s.toList

instance (s : String) : Decidable (IsLine s) := inferInstanceAs (Decidable (_ ∧ _))

@[simp] theorem isLine_append {s t : String} : IsLine (s ++ t) ↔ IsLine s ∧ IsLine t := by
  simp only [IsLine, String.toList_append, List.mem_append]
  tauto

/-- A text stands for itself where it is put into another one. -/
@[simp] theorem toString_text (s : String) : toString s = s := rfl

section Lines

variable (l : String) (ls ls' : List String)

@[simp] theorem unlines_nil : unlines [] = "" := rfl

@[simp] theorem unlines_cons : unlines (l :: ls) = l ++ "\n" ++ unlines ls := by
  simp [unlines, String.join_cons]

@[simp] theorem unlines_append : unlines (ls ++ ls') = unlines ls ++ unlines ls' := by
  simp [unlines, String.join_append]

def splitLines (s : String) : List String := (cut '\n' s.toList).map String.ofList

theorem splitLines_ne_nil (s : String) : splitLines s ≠ [] := by
  simpa [splitLines] using cut_ne_nil '\n' s.toList

variable {ls}

theorem splitLines_of_isLine {s : String} (h : IsLine s) : splitLines s = [s] := by
  simp [splitLines, cut_of_not_mem h.1]

theorem splitLines_append_newline (s t : String) :
    splitLines (s ++ "\n" ++ t) = splitLines s ++ splitLines t := by
  simp [splitLines, cut_append_sep]

/-- Lines are read back as they were written, and what follows them is read apart. -/
theorem splitLines_unlines_append (h : ∀ l ∈ ls, IsLine l) (rest : String) :
    splitLines (unlines ls ++ rest) = ls ++ splitLines rest := by
  induction ls with
  | nil => simp
  | cons l ls ih =>
    have hl := splitLines_of_isLine (h l List.mem_cons_self)
    have hls := ih fun l' hl' => h l' (List.mem_cons_of_mem _ hl')
    rw [unlines_cons, String.append_assoc, splitLines_append_newline, hl, hls]
    rfl

/-- A text in front that stays on its line is put before the first line. -/
theorem splitLines_append {s : String} (h : IsLine s) (t : String) :
    splitLines (s ++ t) = (splitLines t).modifyHead (s ++ ·) := by
  have hchars (a b : List Char) (ha : '\n' ∉ a) :
      cut '\n' (a ++ b) = (cut '\n' b).modifyHead (a ++ ·) := by
    induction a with
    | nil => cases hb : cut '\n' b <;> simp [hb]
    | cons c a ih =>
      have hc : c ≠ '\n' := fun e => ha (e ▸ List.mem_cons_self)
      rw [List.cons_append, cut, if_neg hc, ih fun e => ha (List.mem_cons_of_mem _ e)]
      cases hb : cut '\n' b with
      | nil => exact absurd hb (cut_ne_nil _ _)
      | cons l ls => rfl
  rw [splitLines, String.toList_append, hchars _ _ h.1, splitLines]
  cases cut '\n' t.toList with
  | nil => rfl
  | cons l ls => simp [String.ofList_append]

end Lines

section Splits

variable {sep : Char} {s : List Char}

theorem splitOnce_of_not_mem (h : sep ∉ s) : splitOnce sep s = none := by
  induction s with
  | nil => rfl
  | cons c s ih =>
    have hc : c ≠ sep := fun e => h (e ▸ List.mem_cons_self)
    rw [splitOnce, if_neg hc, ih fun e => h (List.mem_cons_of_mem _ e)]
    rfl

theorem splitOnce_append (h : sep ∉ s) (t : List Char) :
    splitOnce sep (s ++ sep :: t) = some (s, t) := by
  induction s with
  | nil => simp [splitOnce]
  | cons c s ih =>
    have hc : c ≠ sep := fun e => h (e ▸ List.mem_cons_self)
    rw [List.cons_append, splitOnce, if_neg hc, ih fun e => h (List.mem_cons_of_mem _ e)]
    rfl

end Splits

section Marks

variable {m s : List Char}

theorem occurs_iff_infix : occurs m s = true ↔ m <:+: s := by
  induction s with
  | nil => simp [occurs, List.isPrefixOf_iff_prefix]
  | cons c s ih =>
    rw [occurs, Bool.or_eq_true, ih, List.isPrefixOf_iff_prefix, List.infix_cons_iff]

theorem infix_dropWhile {p : Char → Bool} (hm : m.head?.any p = false) :
    m <:+: s.dropWhile p ↔ m <:+: s := by
  induction s with
  | nil => rfl
  | cons c s ih =>
    cases hc : p c with
    | false => rw [List.dropWhile_cons_of_neg (by simp [hc])]
    | true =>
      rw [List.dropWhile_cons_of_pos hc, ih, List.infix_cons_iff]
      refine ⟨.inr, fun h => h.elim (fun hpre => ?_) id⟩
      cases m with
      | nil => exact List.nil_infix
      | cons d m =>
        obtain ⟨rfl, -⟩ := List.cons_prefix_cons.mp hpre
        simp [hc] at hm

/-- Trimming takes nothing away from a mark whose ends are not blank. -/
theorem occurs_trim (hfirst : m.head?.any isBlank = false)
    (hlast : m.getLast?.any isBlank = false) : occurs m (trim s) = occurs m s := by
  rw [Bool.eq_iff_iff, occurs_iff_infix, occurs_iff_infix, trim, trimEnd, ← List.reverse_infix,
    List.reverse_reverse, infix_dropWhile (by simpa using hlast), List.reverse_infix, trimStart,
    infix_dropWhile hfirst]

/-- A mark that no end of a text leads into occurs behind that text or nowhere. -/
theorem occurs_append {a : List Char} (ha : ∀ t ∈ a.tails, t ≠ [] → ¬t <+: m ∧ ¬m <+: t) :
    occurs m (a ++ s) = occurs m s := by
  rw [Bool.eq_iff_iff, occurs_iff_infix, occurs_iff_infix]
  induction a with
  | nil => rfl
  | cons c a ih =>
    rw [List.tails_cons, List.forall_mem_cons] at ha
    obtain ⟨hhere, hthere⟩ := ha
    obtain ⟨hinto, hwhole⟩ := hhere (List.cons_ne_nil c a)
    rw [List.cons_append, List.infix_cons_iff, ih hthere]
    refine ⟨fun h => h.elim (fun hpre => ?_) id, .inr⟩
    have hstart : c :: a <+: c :: (a ++ s) := List.prefix_append (c :: a) s
    rcases List.prefix_or_prefix_of_prefix hpre hstart with h | h
    · exact absurd h hwhole
    · exact absurd h hinto

end Marks

end Testbed.Text
