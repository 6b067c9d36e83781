import Mathlib.Tactic.SplitIfs
import Testbed.Text.Lower

/-!
# Texts in the same letters

Two texts are in the same letters if they differ in the case of letters A to Z only. It makes no
difference whether they are compared in lower case or in upper case, and all spellings of an ASCII
text have the same lower case.
-/

namespace Testbed.Text

def SameLetters (s t : String) : Prop := asciiLower s = asciiLower t

instance (s t : String) : Decidable (SameLetters s t) :=
  inferInstanceAs (Decidable (asciiLower s = asciiLower t))

def IsAscii (s : String) : Prop := ∀ c ∈ s.toList, c.toNat < 0x80

section Characters

theorem toNat_toLower (c : Char) : c.toLower.toNat =
    if 0x41 ≤ c.toNat ∧ c.toNat ≤ 0x5A then c.toNat + 32 else c.toNat := by
  unfold Char.toLower
  split
  · next h =>
    have hlow : 0x41 ≤ c.toNat := h.1
    have hhigh : c.toNat ≤ 0x5A := h.2
    have hshift : 'a'.val - 'A'.val = 32 := by decide
    have hsum : (c.val + ('a'.val - 'A'.val)).toNat = (c.toNat + 32) % 2 ^ 32 := by
      rw [hshift, UInt32.toNat_add]
      rfl
    rw [if_pos ⟨hlow, hhigh⟩]
    refine hsum.trans ?_
    omega
  · next h => exact (if_neg h).symm

theorem toNat_toUpper (c : Char) : c.toUpper.toNat =
    if 0x61 ≤ c.toNat ∧ c.toNat ≤ 0x7A then c.toNat - 32 else c.toNat := by
  unfold Char.toUpper
  split
  · next h =>
    have hlow : 0x61 ≤ c.toNat := h.1
    have hhigh : c.toNat ≤ 0x7A := h.2
    -- the shift is a subtraction of 32, which is written as an addition that wraps around
    have hshift : 'A'.val - 'a'.val = 0xFFFFFFE0 := by decide
    have hsum : (c.val + ('A'.val - 'a'.val)).toNat = (c.toNat + 0xFFFFFFE0) % 2 ^ 32 := by
      rw [hshift, UInt32.toNat_add]
      rfl
    rw [if_pos ⟨hlow, hhigh⟩]
    refine hsum.trans ?_
    omega
  · next h => exact (if_neg h).symm

theorem toUpper_toLower (c : Char) : c.toLower.toUpper = c.toUpper := by
  apply Char.toNat_inj.mp
  rw [toNat_toUpper, toNat_toUpper, toNat_toLower]
  split_ifs <;> omega

theorem toLower_toUpper (c : Char) : c.toUpper.toLower = c.toLower := by
  apply Char.toNat_inj.mp
  rw [toNat_toLower, toNat_toLower, toNat_toUpper]
  split_ifs <;> omega

end Characters

section Texts

variable {s t u : String}

theorem asciiUpper_asciiLower (s : String) : asciiUpper (asciiLower s) = asciiUpper s := by
  have hchars : Char.toUpper ∘ Char.toLower = Char.toUpper := funext toUpper_toLower
  rw [asciiUpper, asciiLower, String.toList_ofList, List.map_map, hchars, asciiUpper]

theorem asciiLower_asciiUpper (s : String) : asciiLower (asciiUpper s) = asciiLower s := by
  have hchars : Char.toLower ∘ Char.toUpper = Char.toLower := funext toLower_toUpper
  rw [asciiLower, asciiUpper, String.toList_ofList, List.map_map, hchars, asciiLower]

theorem sameLetters_iff_asciiUpper_eq : SameLetters s t ↔ asciiUpper s = asciiUpper t := by
  constructor
  · intro h
    have hupper : asciiUpper (asciiLower s) = asciiUpper (asciiLower t) := congrArg asciiUpper h
    rwa [asciiUpper_asciiLower, asciiUpper_asciiLower] at hupper
  · intro h
    have hlower : asciiLower (asciiUpper s) = asciiLower (asciiUpper t) := congrArg asciiLower h
    rwa [asciiLower_asciiUpper, asciiLower_asciiUpper] at hlower

theorem SameLetters.trans (h : SameLetters s t) (h' : SameLetters t u) : SameLetters s u :=
  Eq.trans h h'

theorem SameLetters.symm (h : SameLetters s t) : SameLetters t s := Eq.symm h

/-- In capitals the comparison is with the text itself. -/
theorem sameLetters_iff_of_capitals (ht : asciiUpper t = t) :
    SameLetters s t ↔ asciiUpper s = t := by
  rw [sameLetters_iff_asciiUpper_eq, ht]

theorem lowerFrom_of_ascii {l : List Char} (h : ∀ c ∈ l, c.toNat < 0x80) (before : List Char) :
    lowerFrom before l = l.map Char.toLower := by
  induction l generalizing before with
  | nil => rfl
  | cons c l ih =>
    obtain ⟨hc, hl⟩ := List.forall_mem_cons.mp h
    have hform : lowerChar c = [c.toLower] := by
      rw [lowerChar, if_neg (by omega), if_pos hc]
    simp only [lowerFrom]
    rw [if_neg (by omega), hform, ih hl]
    rfl

theorem lower_of_isAscii (h : IsAscii s) : lower s = asciiLower s := by
  rw [lower, lowerFrom_of_ascii h]
  rfl

theorem SameLetters.isAscii (h : SameLetters s t) (ht : IsAscii t) : IsAscii s := by
  intro c hc
  have hmap : s.toList.map Char.toLower = t.toList.map Char.toLower := String.ofList_inj.mp h
  have hmem : c.toLower ∈ t.toList.map Char.toLower := hmap ▸ List.mem_map_of_mem hc
  obtain ⟨d, hd, hsame⟩ := List.mem_map.mp hmem
  have hlt := ht d hd
  have hnat : d.toLower.toNat = c.toLower.toNat := congrArg Char.toNat hsame
  rw [toNat_toLower, toNat_toLower] at hnat
  split_ifs at hnat <;> omega

theorem SameLetters.lower_eq (h : SameLetters s t) (ht : IsAscii t) : lower s = asciiLower t := by
  rw [lower_of_isAscii (h.isAscii ht)]
  exact h

end Texts

end Testbed.Text
