import Mathlib.Data.List.TakeWhile
import Testbed.Toml.Reader

/-!
# How entries are spelled

The spellings of a quoted key and of a basic string, and the lines that give such a key such a
string. Whatever spelling a text has, it is read as the text, whatever stands behind it.
-/

namespace Testbed.Toml.Reader

section Strings

/-- The spellings of a text between the quotes of a basic string. -/
inductive BasicText : List Char → List Char → Prop where
  | nil : BasicText [] []
  | plain {c : Char} {t u : List Char} (htext : isText c = true) (hquote : c ≠ '"')
    (hback : c ≠ '\\') (h : BasicText t u) : BasicText (c :: t) (c :: u)
  | escape {e c : Char} {t u : List Char} (hc : escaped? e = some c) (h : BasicText t u) :
    BasicText (c :: t) ('\\' :: e :: u)
  | short {x₁ x₂ x₃ x₄ c : Char} {t u : List Char} (hc : codePoint? [x₁, x₂, x₃, x₄] = some c)
    (h : BasicText t u) : BasicText (c :: t) ('\\' :: 'u' :: x₁ :: x₂ :: x₃ :: x₄ :: u)
  | long {x₁ x₂ x₃ x₄ x₅ x₆ x₇ x₈ c : Char} {t u : List Char}
    (hc : codePoint? [x₁, x₂, x₃, x₄, x₅, x₆, x₇, x₈] = some c) (h : BasicText t u) :
    BasicText (c :: t) ('\\' :: 'U' :: x₁ :: x₂ :: x₃ :: x₄ :: x₅ :: x₆ :: x₇ :: x₈ :: u)

variable {t u : List Char}

theorem basicString_escape {e c : Char} (hc : escaped? e = some c) (r : List Char) :
    basicString ('\\' :: e :: r) = before c (basicString r) := by
  have he : e ≠ 'u' ∧ e ≠ 'U' := by
    constructor <;>
      · rintro rfl
        cases hc
  rw [basicString]
  · rw [hc]
    rfl
  all_goals simp [he]

theorem basicString_plain {c : Char} (htext : isText c = true) (hquote : c ≠ '"') (hback : c ≠ '\\')
    (r : List Char) : basicString (c :: r) = before c (basicString r) := by
  rw [basicString]
  · simp [htext]
  all_goals simp_all

/-- A text is read from each of its spellings. -/
theorem basicString_basicText (h : BasicText t u) (r : List Char) :
    basicString (u ++ '"' :: r) = some (t, r) := by
  induction h with
  | nil => rfl
  | plain htext hquote hback h ih =>
    rw [List.cons_append, basicString_plain htext hquote hback, ih]
    rfl
  | escape hc h ih =>
    rw [List.cons_append, List.cons_append, basicString_escape hc, ih]
    rfl
  | short hc h ih =>
    simp only [List.cons_append, basicString, hc, ih]
    rfl
  | long hc h ih =>
    simp only [List.cons_append, basicString, hc, ih]
    rfl

def isUnescaped (c : Char) : Bool := isText c && c != '"' && c != '\\'

theorem basicText_self (h : t.all isUnescaped = true) : BasicText t t := by
  induction t with
  | nil => exact .nil
  | cons c t ih =>
    rw [List.all_cons, Bool.and_eq_true] at h
    obtain ⟨hc, h⟩ := h
    simp only [isUnescaped, Bool.and_eq_true, bne_iff_ne] at hc
    exact .plain hc.1.1 hc.1.2 hc.2 (ih h)

theorem exists_basicText (t : List Char) : ∃ u, BasicText t u := by
  induction t with
  | nil => exact ⟨[], .nil⟩
  | cons c t ih =>
    obtain ⟨u, hu⟩ := ih
    by_cases hascii : c.toNat < 0x80
    · have hhex : ∀ n : Fin 0x80, codePoint? ['0', '0', Text.Percent.hexDigit (n / 16),
          Text.Percent.hexDigit (n % 16)] = some (Char.ofNat n) := by decide +kernel
      have hc := hhex ⟨c.toNat, hascii⟩
      rw [Char.ofNat_toNat] at hc
      exact ⟨_, .short hc hu⟩
    · have hrange : 0x20 ≤ c.toNat ∧ c.toNat ≠ 0x7F := by omega
      have htext : isText c = true := by simp [isText, hrange]
      refine ⟨c :: u, .plain htext ?_ ?_ hu⟩ <;>
        · rintro rfl
          exact hascii (by decide)

inductive QuotedKey : List Char → List Char → Prop where
  | basic {t u : List Char} (h : BasicText t u) : QuotedKey t ('"' :: (u ++ ['"']))
  | literal {t : List Char} (h : ∀ c ∈ t, isText c = true ∧ c ≠ '\'') :
    QuotedKey t ('\'' :: (t ++ ['\'']))

theorem simpleKey_quotedKey (h : QuotedKey t u) (r : List Char) :
    simpleKey (u ++ r) = some (String.ofList t, r) := by
  cases h with
  | basic h =>
    simp only [List.cons_append, List.append_assoc, List.nil_append, simpleKey,
      basicString_basicText h]
    rfl
  | literal h =>
    have hread : literalString (t ++ '\'' :: r) = some (t, r) := by
      induction t with
      | nil => rfl
      | cons c t ih =>
        obtain ⟨htext, hquote⟩ := h c List.mem_cons_self
        rw [List.cons_append, literalString, if_pos htext,
          ih fun d hd => h d (List.mem_cons_of_mem _ hd)]
        · rfl
        · exact fun e => hquote e
    simp only [List.cons_append, List.append_assoc, List.nil_append, simpleKey, hread]
    rfl

end Strings

section Lines

variable {s r : List Char} {p : String × String}

/-- A line that gives a quoted key a basic string, and what stands behind it. -/
inductive EntryLine (p : String × String) : List Char → List Char → Prop where
  | mk {key gap gap' value tail rest : List Char} (hkey : QuotedKey p.1.toList key)
    (hgap : ∀ c ∈ gap, isSpace c = true) (hgap' : ∀ c ∈ gap', isSpace c = true)
    (hvalue : BasicText p.2.toList value) (htail : endLine tail = some rest) :
    EntryLine p (key ++ (gap ++ '=' :: (gap' ++ '"' :: (value ++ '"' :: tail)))) rest

inductive EntryLines : List (String × String) → List Char → List Char → Prop where
  | done (s : List Char) : EntryLines [] s s
  | next {p : String × String} {ps : List (String × String)} {s r s' : List Char}
    (hline : EntryLine p (skipBlank s.length s) r) (h : EntryLines ps r s') :
    EntryLines (p :: ps) s s'

theorem entryLine_plain (hkey : p.1.toList.all isUnescaped = true)
    (hvalue : p.2.toList.all isUnescaped = true) (r : List Char) :
    EntryLine p ('"' :: (p.1.toList ++ ['"']) ++ ([' '] ++ '=' :: ([' '] ++ '"' ::
      (p.2.toList ++ '"' :: '\n' :: r)))) r := by
  have hspace : ∀ c ∈ [' '], isSpace c = true := List.forall_mem_singleton.mpr rfl
  exact .mk (.basic (basicText_self hkey)) hspace hspace (basicText_self hvalue) rfl

/-- No blank stands before the quote that opens a line. -/
theorem EntryLine.skipBlank_eq (h : EntryLine p s r) (n : ℕ) : skipBlank n s = s := by
  obtain ⟨c, s, rfl, hc⟩ : ∃ c s', s = c :: s' ∧ (c = '"' ∨ c = '\'') := by
    cases h with
    | mk hkey =>
      cases hkey with
      | basic => exact ⟨_, _, rfl, .inl rfl⟩
      | literal => exact ⟨_, _, rfl, .inr rfl⟩
  cases n with
  | zero => rfl
  | succ n => rcases hc with rfl | rfl <;> rfl

theorem EntryLines.cons {ps : List (String × String)} {s' : List Char} (hline : EntryLine p s r)
    (h : EntryLines ps r s') : EntryLines (p :: ps) s s' :=
  .next (by rwa [hline.skipBlank_eq]) h

/-- Every list of entries has lines that spell it. -/
theorem exists_entryLines (pairs : List (String × String)) (rest : List Char) :
    ∃ s, EntryLines pairs s rest := by
  induction pairs with
  | nil => exact ⟨rest, .done rest⟩
  | cons p pairs ih =>
    obtain ⟨s, hs⟩ := ih
    obtain ⟨key, hkey⟩ := exists_basicText p.1.toList
    obtain ⟨value, hvalue⟩ := exists_basicText p.2.toList
    have hline : EntryLine p
        ('"' :: (key ++ ['"']) ++ ([] ++ '=' :: ([] ++ '"' :: (value ++ '"' :: '\n' :: s)))) s :=
      .mk (.basic hkey) (List.forall_mem_nil _) (List.forall_mem_nil _) hvalue rfl
    exact ⟨_, .cons hline hs⟩

theorem skipSpace_append {gap : List Char} (hgap : ∀ c ∈ gap, isSpace c = true) {c : Char}
    (hc : isSpace c = false) (r : List Char) : skipSpace (gap ++ c :: r) = c :: r := by
  rw [skipSpace, List.dropWhile_append_of_pos hgap, List.dropWhile_cons_of_neg (by simp [hc])]

/-- A quoted key is a key of its own before the equals sign. -/
theorem key_quotedKey {t u : List Char} (h : QuotedKey t u) {gap : List Char}
    (hgap : ∀ c ∈ gap, isSpace c = true) (r : List Char) :
    key (u ++ (gap ++ '=' :: r)) = some ([String.ofList t], '=' :: r) := by
  have hquote : skipSpace (u ++ (gap ++ '=' :: r)) = u ++ (gap ++ '=' :: r) := by
    cases h <;> rfl
  rw [key, depthLimit, dottedKey, hquote, simpleKey_quotedKey h]
  simp only [Option.bind_eq_bind, Option.bind_some, skipSpace_append hgap (c := '=') rfl]
  rfl

/-- A basic string is a value if no quote follows it. -/
theorem value_basicText {t u : List Char} (h : BasicText t u) {r : List Char}
    (hr : ∀ c ∈ r.head?, c ≠ '"') (n depth : ℕ) :
    value (n + 1) depth ('"' :: (u ++ '"' :: r)) = some (.string (String.ofList t), r) := by
  have hone : ∀ l, u ++ '"' :: r ≠ '"' :: '"' :: l := by
    intro l heq
    cases h with
    | nil =>
      obtain rfl := (List.cons.inj heq).2
      exact hr '"' rfl rfl
    | plain _ hquote => exact hquote (List.cons.inj heq).1
    | escape | short | long => exact absurd (List.cons.inj heq).1 (by decide)
  rw [value]
  · rw [basicString_basicText h]
    rfl
  · exact fun l heq => hone l heq

theorem head_ne_of_endLine {r rest : List Char} (h : endLine r = some rest) :
    ∀ c ∈ r.head?, c ≠ '"' := by
  rintro c hc rfl
  obtain ⟨r, rfl⟩ : ∃ r', r = '"' :: r' := List.head?_eq_some_iff.mp hc
  cases h

theorem statement_entryLine {n : ℕ} (hn : 0 < n) (h : EntryLine p s r) :
    statement n s = some (.assign [p.1] (.string p.2), r) := by
  obtain ⟨m, rfl⟩ : ∃ m, n = m + 1 := ⟨n - 1, by omega⟩
  cases h with
  | @mk key gap gap' value tail _ hkey hgap hgap' hvalue htail =>
    have hread := key_quotedKey hkey hgap (gap' ++ '"' :: (value ++ '"' :: tail))
    have hstring := value_basicText hvalue (head_ne_of_endLine htail) m depthLimit
    have hspace := skipSpace_append hgap' (c := '"') rfl (value ++ '"' :: tail)
    have hnobracket : ∀ l, key ++ (gap ++ '=' :: (gap' ++ '"' :: (value ++ '"' :: tail))) ≠
        '[' :: l := by
      cases hkey <;> simp
    rw [statement]
    · simp only [Option.bind_eq_bind, hread, Option.bind_some, char, if_pos, hspace, hstring,
        htail, String.ofList_toList, Option.pure_def]
    · exact fun l => hnobracket _
    · exact hnobracket

theorem statement_header {n : ℕ} {k : Key} {t r' : List Char} (hkey : key r = some (k, ']' :: t))
    (hend : endLine t = some r') : statement n ('[' :: r) = some (.header k, r') := by
  have hnobracket : ∀ l, r ≠ '[' :: l := by
    rintro l rfl
    cases hkey
  rw [statement]
  · simp only [Option.bind_eq_bind, hkey, Option.bind_some, char, if_pos, hend, Option.pure_def]
  · exact hnobracket

end Lines

end Testbed.Toml.Reader
