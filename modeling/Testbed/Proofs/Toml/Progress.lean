import Mathlib.Data.List.Infix
import Testbed.Toml.Reader

/-!
# Readers make progress

What a reader of a document leaves is not longer than what it was given, and a statement leaves
less. So the fuel of the reader of a document, which begins above the length of the text, stays
above the length of what is left.
-/

namespace Testbed.Toml.Reader

variable {α β : Type} {n : ℕ} {s r : List Char}

def Leaves (n : ℕ) (x : Option (α × List Char)) : Prop := ∀ a r, x = some (a, r) → r.length ≤ n

section Steps

theorem leaves_none : Leaves n (none : Option (α × List Char)) := fun _ _ h => nomatch h

theorem leaves_some {a : α} (h : r.length ≤ n) : Leaves n (some (a, r)) := by
  intro b r' heq
  cases heq
  exact h

theorem Leaves.mono {m : ℕ} {x : Option (α × List Char)} (h : Leaves m x) (hm : m ≤ n) :
    Leaves n x := fun a r hx => (h a r hx).trans hm

theorem Leaves.andThen {m : ℕ} {x : Option (α × List Char)}
    {f : α × List Char → Option (β × List Char)} (hx : Leaves m x)
    (hf : ∀ a r, r.length ≤ m → Leaves n (f (a, r))) : Leaves n (x >>= f) := by
  intro b r h
  obtain ⟨⟨a, r'⟩, hx', h⟩ := Option.bind_eq_some_iff.mp h
  exact hf a r' (hx a r' hx') b r h

theorem Leaves.bind {x : Option (α × List Char)} {f : α × List Char → Option (β × List Char)}
    (hx : Leaves n x) (hf : ∀ a r, r.length ≤ n → Leaves n (f (a, r))) : Leaves n (x >>= f) :=
  hx.andThen hf

theorem leaves_after {o : Option β} {f : β → Option (α × List Char)} (hf : ∀ b, Leaves n (f b)) :
    Leaves n (o >>= f) := by
  intro a r h
  obtain ⟨b, -, h⟩ := Option.bind_eq_some_iff.mp h
  exact hf b a r h

theorem Leaves.map {x : Option (α × List Char)} (hx : Leaves n x) (f : α → β) :
    Leaves n (x.map fun y => (f y.1, y.2)) := by
  intro b r h
  obtain ⟨⟨a, r'⟩, rfl, heq⟩ := Option.map_eq_some_iff.mp h
  cases heq
  exact hx a r' rfl

theorem Leaves.before {x : Option (List Char × List Char)} (hx : Leaves n x) (c : Char) :
    Leaves n (before c x) := hx.map (c :: ·)

theorem leaves_ite {c : Prop} [Decidable c] {x y : Option (α × List Char)} (hx : Leaves n x)
    (hy : Leaves n y) : Leaves n (if c then x else y) := by
  split_ifs
  · exact hx
  · exact hy

theorem leaves_orElse {x y : Option (α × List Char)} (hx : Leaves n x) (hy : Leaves n y) :
    Leaves n (x <|> y) := by
  cases x with
  | none => exact hy
  | some a => exact hx

end Steps

section Strings

theorem leaves_basicString (s : List Char) : Leaves s.length (basicString s) := by
  fun_induction basicString s
  case case1 => exact leaves_none
  case case2 => exact leaves_some (Nat.le_succ _)
  case case6 ih => exact (ih.mono (Nat.le_succ _)).before _
  case case7 => exact leaves_none
  all_goals
    next ih =>
      exact leaves_after fun c => (ih.mono (by simp only [List.length_cons]; omega)).before c

theorem leaves_literalString (s : List Char) : Leaves s.length (literalString s) := by
  fun_induction literalString s
  case case1 => exact leaves_none
  case case2 => exact leaves_some (Nat.le_succ _)
  case case3 ih => exact (ih.mono (Nat.le_succ _)).before _
  case case4 => exact leaves_none

theorem leaves_basicLines (skipping : Bool) (s : List Char) :
    Leaves s.length (basicLines skipping s) := by
  fun_induction basicLines skipping s
  case case1 => exact leaves_none
  case case2 ih => exact ih.mono (Nat.le_succ _)
  case case3 ih => exact (ih.mono (Nat.le_succ _)).before _
  case case4 ih => exact ih.mono (by simp only [List.length_cons]; omega)
  case case5 ih => exact (ih.mono (by simp only [List.length_cons]; omega)).before _
  case case6 | case7 | case8 => exact leaves_some (by simp only [List.length_cons]; omega)
  case case11 ih => exact ih.mono (Nat.le_succ _)
  case case13 ih => exact ih.mono (Nat.le_succ _)
  case case14 ih => exact (ih.mono (Nat.le_succ _)).before _
  case case15 => exact leaves_none
  all_goals
    next ih =>
      exact leaves_after fun c => (ih.mono (by simp only [List.length_cons]; omega)).before c

theorem leaves_literalLines (s : List Char) : Leaves s.length (literalLines s) := by
  fun_induction literalLines s
  case case1 => exact leaves_none
  case case2 | case3 | case4 => exact leaves_some (by simp only [List.length_cons]; omega)
  case case5 ih => exact (ih.mono (Nat.le_succ _)).before _
  case case6 ih => exact (ih.mono (by simp only [List.length_cons]; omega)).before _
  case case7 ih => exact (ih.mono (Nat.le_succ _)).before _
  case case8 => exact leaves_none

theorem leaves_asString {x : Option (List Char × List Char)} (h : Leaves n x) :
    Leaves n (asString x) := h.map String.ofList

theorem length_skipBreak (s : List Char) : (skipBreak s).length ≤ s.length := by
  unfold skipBreak
  split
  · exact Nat.le_succ _
  · simp only [List.length_cons]; omega
  · exact Nat.le_refl _

end Strings

section Blanks

theorem length_skipSpace (s : List Char) : (skipSpace s).length ≤ s.length :=
  (List.dropWhile_suffix _).length_le

theorem length_skipBlank (n : ℕ) (s : List Char) : (skipBlank n s).length ≤ s.length := by
  induction n generalizing s with
  | zero => exact Nat.le_refl _
  | succ n ih =>
    have hspace := length_skipSpace s
    rw [skipBlank]
    split
    · next r hr =>
      have hrest := ih r
      rw [hr, List.length_cons] at hspace
      omega
    · next r hr =>
      have hrest := ih r
      rw [hr, List.length_cons, List.length_cons] at hspace
      omega
    · next r hr =>
      have hrest := ih (r.dropWhile isText)
      have hdrop : (r.dropWhile isText).length ≤ r.length := (List.dropWhile_suffix _).length_le
      rw [hr, List.length_cons] at hspace
      omega
    · exact hspace

theorem length_skipComment (s : List Char) : (skipComment s).length ≤ s.length := by
  unfold skipComment
  split
  · exact Nat.le_succ_of_le (List.dropWhile_suffix _).length_le
  · exact Nat.le_refl _

theorem length_endLine (h : endLine s = some r) : r.length ≤ s.length := by
  have hskipped := (length_skipComment (skipSpace s)).trans (length_skipSpace s)
  unfold endLine at h
  split at h
  · cases h
    exact Nat.zero_le _
  · next r' hr =>
    cases h
    rw [hr, List.length_cons] at hskipped
    omega
  · next r' hr =>
    cases h
    rw [hr, List.length_cons, List.length_cons] at hskipped
    omega
  · cases h

end Blanks

section Keys

theorem leaves_simpleKey (s : List Char) : Leaves s.length (simpleKey s) := by
  unfold simpleKey
  split
  · exact leaves_asString ((leaves_basicString _).mono (Nat.le_succ _))
  · exact leaves_asString ((leaves_literalString _).mono (Nat.le_succ _))
  · exact leaves_ite leaves_none (leaves_some (List.dropWhile_suffix _).length_le)

theorem leaves_dottedKey (n : ℕ) (s : List Char) : Leaves s.length (dottedKey n s) := by
  induction n generalizing s with
  | zero => exact leaves_none
  | succ n ih =>
    rw [dottedKey]
    refine ((leaves_simpleKey _).mono (length_skipSpace s)).bind fun k r hr => ?_
    have hspace := (length_skipSpace r).trans hr
    dsimp only
    split
    · next r' hr' =>
      rw [hr', List.length_cons] at hspace
      refine ((ih r').mono (by omega)).bind fun ks r hr => ?_
      exact leaves_some hr
    · exact leaves_some hspace

theorem leaves_key (s : List Char) : Leaves s.length (key s) := leaves_dottedKey depthLimit s

theorem length_char {c : Char} {u : Unit} (h : char c s = some (u, r)) : r.length < s.length := by
  unfold char at h
  split at h
  · split_ifs at h
    cases h
    exact Nat.lt_succ_self _
  · cases h

theorem leaves_char (c : Char) (s : List Char) : Leaves s.length (char c s) :=
  fun _ _ h => (length_char h).le

end Keys

section Numbers

theorem leaves_digitsOf (p : Char → Bool) (s : List Char) : Leaves s.length (digitsOf p s) := by
  fun_induction digitsOf p s
  case case1 | case3 | case4 => exact leaves_none
  case case2 => exact leaves_some (Nat.le_succ _)
  case case5 ih => exact (ih.mono (by simp only [List.length_cons]; omega)).before _
  case case6 ih => exact (ih.mono (Nat.le_succ _)).before _
  case case7 => exact leaves_some (Nat.le_succ _)

theorem length_sign (s : List Char) : (sign s).2.length ≤ s.length := by
  unfold sign
  split
  · exact Nat.le_succ _
  · exact Nat.le_succ _
  · exact Nat.le_refl _

theorem leaves_decimal (s : List Char) : Leaves s.length (decimal s) := by
  have hsign := length_sign s
  unfold decimal
  split
  next negative r hr =>
  rw [hr] at hsign
  split
  · exact leaves_some ((Nat.le_succ _).trans hsign)
  · exact ((leaves_digitsOf _ _).mono hsign).bind fun ds r hr => leaves_some hr

theorem leaves_numberInBase (base : ℕ) (isDigit : Char → Bool) (s : List Char) :
    Leaves s.length (numberInBase base isDigit s) := by
  refine (leaves_digitsOf isDigit s).bind fun ds r hr => ?_
  exact leaves_after fun n => leaves_after fun i => leaves_some hr

theorem leaves_integer (s : List Char) : Leaves s.length (integer s) := by
  unfold integer
  split
  · exact (leaves_numberInBase _ _ _).mono (by simp only [List.length_cons]; omega)
  · exact (leaves_numberInBase _ _ _).mono (by simp only [List.length_cons]; omega)
  · exact (leaves_numberInBase _ _ _).mono (by simp only [List.length_cons]; omega)
  · exact (leaves_decimal s).bind fun ⟨negative, ds⟩ r hr => leaves_after fun i => leaves_some hr

theorem leaves_exponent (s : List Char) : Leaves s.length (exponent s) := by
  have hsign := length_sign s
  unfold exponent
  split
  next negative r hr =>
  rw [hr] at hsign
  exact ((leaves_digitsOf _ _).mono hsign).bind fun ds r hr => leaves_some hr

theorem length_after? {word : String} (h : after? word s = some r) : r.length ≤ s.length := by
  unfold after? at h
  split_ifs at h
  cases h
  exact (List.drop_suffix _ _).length_le

theorem leaves_float {x : Option (Toml × List Char)} (h : float s = some x) :
    Leaves s.length x := by
  unfold float at h
  split at h
  · cases h
  next negative whole r hr =>
  have hle := leaves_decimal s _ _ hr
  dsimp only at h
  split at h
  · cases h
    rw [List.length_cons] at hle
    refine ((leaves_digitsOf _ _).mono (by omega)).bind fun fraction r hr => ?_
    dsimp only
    split
    · next c r' =>
      refine leaves_ite ?_ (leaves_ite leaves_none (leaves_some hr))
      rw [List.length_cons] at hr
      refine ((leaves_exponent r').mono (by omega)).bind fun e r hr => ?_
      exact leaves_ite leaves_none (leaves_some hr)
    · exact leaves_ite leaves_none (leaves_some (Nat.zero_le _))
  · next c r' hr' =>
    split_ifs at h
    cases h
    rw [List.length_cons] at hle
    refine ((leaves_exponent r').mono (by omega)).bind fun e r hr => ?_
    exact leaves_ite leaves_none (leaves_some hr)
  · cases h

theorem leaves_specialFloat (s : List Char) : Leaves s.length (specialFloat s) := by
  intro v r h
  obtain ⟨r', hr', h⟩ := Option.bind_eq_some_iff.mp h
  cases h
  have hword : ∃ word, after? word (sign s).2 = some r := by
    cases hinf : after? "inf" (sign s).2 with
    | none => exact ⟨"nan", by simpa [hinf] using hr'⟩
    | some r => exact ⟨"inf", by simpa [hinf] using hr'⟩
  obtain ⟨word, hword⟩ := hword
  exact (length_after? hword).trans (length_sign s)

end Numbers

section Dates

theorem leaves_fixedDigits (k : ℕ) (s : List Char) : Leaves s.length (fixedDigits k s) :=
  leaves_ite (leaves_some (List.drop_suffix _ _).length_le) leaves_none

theorem leaves_hourMinute (s : List Char) : Leaves s.length (hourMinute s) := by
  refine (leaves_fixedDigits 2 s).bind fun h r hr => ?_
  refine ((leaves_char ':' r).mono hr).bind fun _ r hr => ?_
  refine ((leaves_fixedDigits 2 r).mono hr).bind fun m r hr => ?_
  exact leaves_ite leaves_none (leaves_some hr)

theorem leaves_secondFraction (s : List Char) : Leaves s.length (secondFraction s) := by
  unfold secondFraction
  split
  · exact leaves_ite leaves_none
      (leaves_some (Nat.le_succ_of_le (List.dropWhile_suffix _).length_le))
  · exact leaves_some (Nat.le_refl _)

theorem leaves_time (s : List Char) : Leaves s.length (time s) := by
  refine (leaves_hourMinute s).bind fun _ r hr => ?_
  refine ((leaves_char ':' r).mono hr).bind fun _ r hr => ?_
  refine ((leaves_fixedDigits 2 r).mono hr).bind fun _ r hr => ?_
  refine ((leaves_secondFraction r).mono hr).bind fun _ r hr => ?_
  exact leaves_ite leaves_none (leaves_some hr)

theorem leaves_offset (s : List Char) : Leaves s.length (offset s) := by
  unfold offset
  split
  · exact leaves_some (Nat.le_succ _)
  · exact leaves_some (Nat.le_succ _)
  · refine leaves_ite ?_ (leaves_some (Nat.le_refl _))
    exact ((leaves_hourMinute _).mono (Nat.le_succ _)).bind fun _ r hr => leaves_some hr
  · exact leaves_some (Nat.le_refl _)

theorem leaves_date (s : List Char) : Leaves s.length (date s) := by
  refine (leaves_fixedDigits 4 s).bind fun _ r hr => ?_
  refine ((leaves_char '-' r).mono hr).bind fun _ r hr => ?_
  refine ((leaves_fixedDigits 2 r).mono hr).bind fun _ r hr => ?_
  refine ((leaves_char '-' r).mono hr).bind fun _ r hr => ?_
  refine ((leaves_fixedDigits 2 r).mono hr).bind fun _ r hr => ?_
  exact leaves_ite leaves_none (leaves_some hr)

theorem leaves_dateTime {x : Option (Toml × List Char)} (h : dateTime s = some x) :
    Leaves s.length x := by
  unfold dateTime at h
  split_ifs at h
  · cases h
    refine (leaves_date s).bind fun d r hr => ?_
    dsimp only
    split
    · refine leaves_ite ?_ (leaves_some hr)
      rw [List.length_cons] at hr
      refine ((leaves_time _).mono (by omega)).bind fun t r hr => ?_
      exact ((leaves_offset r).mono hr).bind fun o r hr => leaves_some hr
    · exact leaves_some (Nat.zero_le _)
  · cases h
    exact (leaves_time s).bind fun t r hr => leaves_some hr

theorem leaves_numeric (s : List Char) : Leaves s.length (numeric s) := by
  unfold numeric
  split
  · next h => exact leaves_dateTime h
  · split
    · next h => exact leaves_float h
    · exact leaves_orElse (leaves_specialFloat s) (leaves_integer s)

end Dates

section Values

theorem leaves_after? {word : String} {a : α} :
    Leaves s.length ((after? word s).map (a, ·)) := by
  intro b r h
  obtain ⟨r', hr, heq⟩ := Option.map_eq_some_iff.mp h
  cases heq
  exact length_after? hr

theorem leaves_value_succ {depth : ℕ} (hitems : ∀ depth s, Leaves s.length (arrayItems n depth s))
    (hpairs : ∀ depth s, Leaves s.length (assignments n depth s)) :
    Leaves s.length (value (n + 1) depth s) := by
  unfold value
  split
  · next r =>
    have hbreak := length_skipBreak r
    refine (leaves_asString ((leaves_basicLines _ _).mono ?_)).bind fun t r hr => leaves_some hr
    simp only [List.length_cons]
    omega
  · next r =>
    have hbreak := length_skipBreak r
    refine (leaves_asString ((leaves_literalLines _).mono ?_)).bind fun t r hr => leaves_some hr
    simp only [List.length_cons]
    omega
  · exact (leaves_asString ((leaves_basicString _).mono (Nat.le_succ _))).bind
      fun t r hr => leaves_some hr
  · exact (leaves_asString ((leaves_literalString _).mono (Nat.le_succ _))).bind
      fun t r hr => leaves_some hr
  · next r =>
    split
    · exact leaves_none
    · exact ((hitems _ _).mono (Nat.le_succ_of_le (length_skipBlank n r))).bind
        fun items r hr => leaves_some hr
  · next r =>
    have hspace := length_skipSpace r
    split
    · exact leaves_none
    split
    · next r' hr =>
      rw [hr, List.length_cons] at hspace
      exact leaves_some (by simp only [List.length_cons]; omega)
    · exact ((hpairs _ _).mono (Nat.le_succ_of_le hspace)).bind
        fun pairs r hr => leaves_after fun v => leaves_some hr
  · exact leaves_ite (leaves_numeric _) (leaves_orElse leaves_after? leaves_after?)
  · exact leaves_none

theorem leaves_arrayItems_succ {depth : ℕ} (hvalue : ∀ depth s, Leaves s.length (value n depth s))
    (hitems : ∀ depth s, Leaves s.length (arrayItems n depth s)) :
    Leaves s.length (arrayItems (n + 1) depth s) := by
  unfold arrayItems
  split
  · exact leaves_some (Nat.le_succ _)
  · refine (hvalue depth s).bind fun v r hr => ?_
    have hblank := (length_skipBlank n r).trans hr
    dsimp only
    split
    · next r' hr' =>
      rw [hr', List.length_cons] at hblank
      have hrest := length_skipBlank n r'
      exact ((hitems _ _).mono (by omega)).bind fun vs r hr => leaves_some hr
    · next r' hr' =>
      rw [hr', List.length_cons] at hblank
      exact leaves_some (by omega)
    · exact leaves_none

theorem leaves_assignments_succ {depth : ℕ} (hvalue : ∀ depth s, Leaves s.length (value n depth s))
    (hpairs : ∀ depth s, Leaves s.length (assignments n depth s)) :
    Leaves s.length (assignments (n + 1) depth s) := by
  unfold assignments
  refine (leaves_key s).bind fun k r hr => ?_
  refine ((leaves_char '=' r).mono hr).bind fun _ r hr => ?_
  refine ((hvalue depth _).mono ((length_skipSpace r).trans hr)).bind fun v r hr => ?_
  have hspace := (length_skipSpace r).trans hr
  dsimp only
  split
  · next r' hr' =>
    rw [hr', List.length_cons] at hspace
    exact ((hpairs _ r').mono (by omega)).bind fun rest r hr => leaves_some hr
  · next r' hr' =>
    rw [hr', List.length_cons] at hspace
    exact leaves_some (by omega)
  · exact leaves_none

/-- A value, the items of an array and the assignments of a table leave no more than there was. -/
theorem leaves_values (n : ℕ) :
    (∀ depth s, Leaves s.length (value n depth s)) ∧
    (∀ depth s, Leaves s.length (arrayItems n depth s)) ∧
    ∀ depth s, Leaves s.length (assignments n depth s) := by
  induction n with
  | zero => exact ⟨fun _ _ => leaves_none, fun _ _ => leaves_none, fun _ _ => leaves_none⟩
  | succ n ih =>
    obtain ⟨hvalue, hitems, hpairs⟩ := ih
    exact ⟨fun _ _ => leaves_value_succ hitems hpairs,
      fun _ _ => leaves_arrayItems_succ hvalue hitems,
      fun _ _ => leaves_assignments_succ hvalue hpairs⟩

theorem leaves_value (n depth : ℕ) (s : List Char) : Leaves s.length (value n depth s) :=
  (leaves_values n).1 depth s

/-- The equals sign of an assignment is taken. -/
theorem leaves_char_of_le {c : Char} (h : s.length ≤ n + 1) : Leaves n (char c s) := by
  intro u r hr
  have hlt := length_char hr
  omega

theorem leaves_lineEnd (a : α) (h : s.length ≤ n) :
    Leaves n ((endLine s).bind fun r => some (a, r)) := by
  intro b r hr
  obtain ⟨r', hr', heq⟩ := Option.bind_eq_some_iff.mp hr
  cases heq
  exact (length_endLine hr').trans h

/-- A statement takes at least one character: the bracket of a header or the equals sign. -/
theorem leaves_statement (c : Char) (s : List Char) : Leaves s.length (statement n (c :: s)) := by
  unfold statement
  split
  · next r heq =>
    obtain rfl := (List.cons.inj heq).2
    refine ((leaves_key r).mono (Nat.le_succ _)).bind fun k r hr => ?_
    refine ((leaves_char ']' r).mono hr).bind fun _ r hr => ?_
    refine ((leaves_char ']' r).mono hr).bind fun _ r hr => ?_
    exact leaves_lineEnd _ hr
  · next r _ heq =>
    obtain rfl := (List.cons.inj heq).2
    refine (leaves_key _).bind fun k r hr => ?_
    refine ((leaves_char ']' r).mono hr).bind fun _ r hr => ?_
    exact leaves_lineEnd _ hr
  · refine (leaves_key (c :: s)).andThen fun k r hr => ?_
    refine (leaves_char_of_le hr).bind fun _ r hr => ?_
    refine ((leaves_value _ _ _).mono ((length_skipSpace r).trans hr)).bind fun v r hr => ?_
    exact leaves_lineEnd _ hr

theorem length_statement {st : Statement} (h : statement n s = some (st, r)) :
    r.length < s.length := by
  cases s with
  | nil => cases h
  | cons c s => exact Nat.lt_succ_of_le (leaves_statement c s st r h)

end Values

end Testbed.Toml.Reader
