import Mathlib.Data.List.TakeWhile
import Testbed.Proofs.Text.Lines

/-!
# Trimming

A text has one trimmed form: what is left between blanks and neither begins nor ends with one. So
blanks that are put around a text do not change its trimmed form, and a text is trimmed to nothing
just if it is blank throughout. A text is cut where the list of its characters splits.
-/

namespace Testbed.Text

def IsBlankText (s : List Char) : Prop := ∀ c ∈ s, isBlank c = true

instance (s : List Char) : Decidable (IsBlankText s) :=
  inferInstanceAs (Decidable (∀ c ∈ s, isBlank c = true))

structure IsTrimOf (s t : List Char) : Prop where
  between : ∃ before after, s = before ++ t ++ after ∧ IsBlankText before ∧ IsBlankText after
  head : ∀ c ∈ t.head?, isBlank c = false
  last : ∀ c ∈ t.getLast?, isBlank c = false

section Trims

variable {s t before after : List Char}

theorem isBlankText_reverse (h : IsBlankText s) : IsBlankText s.reverse :=
  fun c hc => h c (List.mem_reverse.mp hc)

theorem head?_dropWhile_isBlank (s : List Char) :
    ∀ c ∈ (s.dropWhile isBlank).head?, isBlank c = false := by
  intro c hc
  have h := List.head?_dropWhile_not isBlank s
  rwa [Option.mem_def.mp hc] at h

theorem dropWhile_of_head? (h : ∀ c ∈ s.head?, isBlank c = false) : s.dropWhile isBlank = s := by
  cases s with
  | nil => rfl
  | cons c s => rw [List.dropWhile_cons_of_neg (by simp [h c rfl])]

theorem isTrimOf_trim (s : List Char) : IsTrimOf s (trim s) := by
  obtain ⟨tail, htail⟩ : ∃ tail, tail = (trimStart s).reverse.takeWhile isBlank := ⟨_, rfl⟩
  have hstart : s = s.takeWhile isBlank ++ trimStart s := (List.takeWhile_append_dropWhile).symm
  have hend : trimStart s = trim s ++ tail.reverse := by
    rw [trim, trimEnd, ← List.reverse_append, htail, List.takeWhile_append_dropWhile,
      List.reverse_reverse]
  constructor
  · refine ⟨s.takeWhile isBlank, tail.reverse, ?_, fun c => List.mem_takeWhile_imp, ?_⟩
    · rw [List.append_assoc, ← hend, ← hstart]
    · apply isBlankText_reverse
      rw [htail]
      exact fun c => List.mem_takeWhile_imp
  · intro c hc
    apply head?_dropWhile_isBlank s c
    change c ∈ (trimStart s).head?
    rw [hend]
    exact List.mem_head?_append_of_mem_head? hc
  · intro c hc
    rw [trim, trimEnd, List.getLast?_reverse] at hc
    exact head?_dropWhile_isBlank _ c hc

theorem IsTrimOf.trim_eq (h : IsTrimOf s t) : trim s = t := by
  obtain ⟨⟨before, after, rfl, hbefore, hafter⟩, hhead, hlast⟩ := h
  have hstart : trimStart (before ++ t ++ after) = (t ++ after).dropWhile isBlank := by
    rw [trimStart, List.append_assoc, List.dropWhile_append_of_pos hbefore]
  rw [trim, hstart]
  cases t with
  | nil =>
    have hnil : after.dropWhile isBlank = [] := List.dropWhile_eq_nil_iff.mpr hafter
    rw [List.nil_append, hnil]
    rfl
  | cons c t =>
    rw [dropWhile_of_head? (by simpa using hhead), trimEnd, List.reverse_append,
      List.dropWhile_append_of_pos (isBlankText_reverse hafter), dropWhile_of_head?,
      List.reverse_reverse]
    rwa [List.head?_reverse]

theorem isTrimOf_iff : IsTrimOf s t ↔ trim s = t := by
  constructor
  · exact IsTrimOf.trim_eq
  · rintro rfl
    exact isTrimOf_trim s

/-- Blanks around a text are nothing to its trimmed form. -/
theorem trim_blanks (hbefore : IsBlankText before) (hafter : IsBlankText after) (s : List Char) :
    trim (before ++ s ++ after) = trim s := by
  obtain ⟨⟨first, final, hs, hfirst, hfinal⟩, hhead, hlast⟩ := isTrimOf_trim s
  apply IsTrimOf.trim_eq
  refine ⟨⟨before ++ first, final ++ after, ?_, ?_, ?_⟩, hhead, hlast⟩
  · conv_lhs => rw [hs]
    simp only [List.append_assoc]
  · exact List.forall_mem_append.mpr ⟨hbefore, hfirst⟩
  · exact List.forall_mem_append.mpr ⟨hfinal, hafter⟩

theorem trim_eq_nil_iff : trim s = [] ↔ IsBlankText s := by
  rw [← isTrimOf_iff]
  constructor
  · rintro ⟨⟨before, after, rfl, hbefore, hafter⟩, -, -⟩
    rw [List.append_nil]
    exact List.forall_mem_append.mpr ⟨hbefore, hafter⟩
  · intro h
    exact ⟨⟨s, [], by simp, h, by simp [IsBlankText]⟩, by simp, by simp⟩

end Trims

section Cuts

theorem cut_eq_splitOn (sep : Char) (s : List Char) : cut sep s = s.splitOn sep := by
  induction s with
  | nil => simp [cut]
  | cons c s ih =>
    rw [cut, List.splitOn_cons_eq_if_modifyHead, ih]
    by_cases hc : c = sep
    · rw [if_pos hc, if_pos (beq_iff_eq.mpr hc)]
    · rw [if_neg hc, if_neg (by simpa using hc)]
      obtain ⟨p, ps, hps⟩ := List.exists_cons_of_ne_nil (List.splitOn_ne_nil sep s)
      rw [hps, List.modifyHead_cons]

theorem not_mem_of_mem_cut {sep : Char} {s l : List Char} (h : l ∈ cut sep s) : sep ∉ l := by
  induction s generalizing l with
  | nil =>
    rw [List.mem_singleton.mp h]
    exact List.not_mem_nil
  | cons c s ih =>
    rw [cut] at h
    by_cases hc : c = sep
    · rw [if_pos hc] at h
      obtain rfl | h := List.mem_cons.mp h
      · exact List.not_mem_nil
      · exact ih h
    · obtain ⟨p, ps, hps⟩ := List.exists_cons_of_ne_nil (cut_ne_nil sep s)
      rw [if_neg hc, hps] at h
      rw [hps] at ih
      obtain rfl | h := List.mem_cons.mp h
      · intro hmem
        obtain hsep | hmem := List.mem_cons.mp hmem
        · exact hc hsep.symm
        · exact ih List.mem_cons_self hmem
      · exact ih (List.mem_cons_of_mem p h)

/-- The last line of a text, apart from what stands in front of it. -/
theorem exists_last_line {sep : Char} {s : List Char} (h : sep ∈ s) :
    ∃ r l, s = r ++ sep :: l ∧ sep ∉ l := by
  obtain ⟨l, r, hs, hl⟩ := List.eq_append_cons_of_mem (List.mem_reverse.mpr h)
  refine ⟨r.reverse, l.reverse, ?_, fun hmem => hl (List.mem_reverse.mp hmem)⟩
  rw [← List.reverse_reverse s, hs]
  simp

end Cuts

end Testbed.Text
