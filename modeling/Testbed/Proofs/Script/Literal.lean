import Testbed.Proofs.Text.Lines
import Testbed.Script.Literal

/-!
# Reading literals back

Test data that is written as a literal is read back as it was, and the reader stops at the quote
that ends the literal, whatever stands behind it. A literal stays on its line.
-/

namespace Testbed.Script

theorem readLiteral_escapeChar (c : Char) (r : List Char) :
    readLiteral (escapeChar c ++ r) = (readLiteral r).map fun (t, s) => (c :: t, s) := by
  unfold escapeChar
  split_ifs with hbackslash hquote hnewline hreturn
  · subst hbackslash
    rfl
  · subst hquote
    rfl
  · subst hnewline
    rfl
  · subst hreturn
    rfl
  · rw [List.singleton_append, readLiteral]
    · rw [if_neg (not_or.mpr ⟨hnewline, hreturn⟩)]
    all_goals simp_all

theorem readLiteral_escapeChars (s r : List Char) :
    readLiteral (escapeChars s ++ '"' :: r) = some (s, r) := by
  induction s with
  | nil => rfl
  | cons c s ih =>
    have hcons : escapeChars (c :: s) = escapeChar c ++ escapeChars s := rfl
    rw [hcons, List.append_assoc, readLiteral_escapeChar, ih]
    rfl

theorem readLiteral_escape (d : String) (r : List Char) :
    readLiteral ((escape d).toList ++ '"' :: r) = some (d.toList, r) := by
  rw [escape, String.toList_ofList, readLiteral_escapeChars]

theorem escape_injective : Function.Injective escape := by
  intro d d' h
  have hread := readLiteral_escape d []
  rw [h, readLiteral_escape, Option.some.injEq, Prod.mk.injEq] at hread
  exact String.toList_injective hread.1.symm

theorem isLine_escape (d : String) : Text.IsLine (escape d) := by
  have hchar (c : Char) : '\n' ∉ escapeChar c ∧ '\r' ∉ escapeChar c := by
    unfold escapeChar
    split_ifs <;> simp_all [eq_comm]
  rw [Text.IsLine, escape, String.toList_ofList, escapeChars]
  simp only [List.mem_flatMap, not_exists, not_and]
  exact ⟨fun c _ => (hchar c).1, fun c _ => (hchar c).2⟩

end Testbed.Script
