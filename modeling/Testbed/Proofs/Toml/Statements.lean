import Testbed.Proofs.Toml.Progress
import Testbed.Proofs.Toml.Spelling

/-!
# The statements of a text

The fuel of the reader of a document never runs out: it begins above twice the length of the text,
and whatever fuel there is above twice the length, the same is read. So the statements of a text
are those that stand in it one after another, with blanks and comments between them, and a part of
the text can be told apart by its own statements.
-/

namespace Testbed.Toml

namespace Reader

variable {α β : Type} {n m : ℕ} {s r : List Char}

section Fuel

/-- The second step need only be the same on what the first one leaves. -/
theorem Leaves.bind_congr {x : Option (α × List Char)} (hx : Leaves n x)
    {f g : α × List Char → Option (β × List Char)} (h : ∀ a r, r.length ≤ n → f (a, r) = g (a, r)) :
    x >>= f = x >>= g := by
  cases x with
  | none => rfl
  | some y => exact h y.1 y.2 (hx y.1 y.2 rfl)

theorem skipBlank_eq (hn : s.length ≤ n) (hm : s.length ≤ m) : skipBlank n s = skipBlank m s := by
  have hnil : ∀ n, skipBlank n [] = [] := by
    intro n
    cases n <;> rfl
  induction n generalizing s m with
  | zero =>
    obtain rfl := List.eq_nil_of_length_eq_zero (Nat.le_zero.mp hn)
    rw [hnil, hnil]
  | succ n ih =>
    cases m with
    | zero =>
      obtain rfl := List.eq_nil_of_length_eq_zero (Nat.le_zero.mp hm)
      rw [hnil, hnil]
    | succ m =>
      have hspace := length_skipSpace s
      rw [skipBlank, skipBlank]
      split
      · next r hr =>
        rw [hr, List.length_cons] at hspace
        exact ih (by omega) (by omega)
      · next r hr =>
        rw [hr, List.length_cons, List.length_cons] at hspace
        exact ih (by omega) (by omega)
      · next r hr =>
        have hdrop : (r.dropWhile isText).length ≤ r.length := (List.dropWhile_suffix _).length_le
        rw [hr, List.length_cons] at hspace
        exact ih (by omega) (by omega)
      · rfl

/-- A value reads the same with either fuel. -/
def SameValue (n m : ℕ) : Prop :=
  ∀ depth s, 2 * s.length < n → 2 * s.length < m → value n depth s = value m depth s

def SameItems (n m : ℕ) : Prop :=
  ∀ depth s, 2 * s.length + 1 < n → 2 * s.length + 1 < m →
    arrayItems n depth s = arrayItems m depth s

def SameAssignments (n m : ℕ) : Prop :=
  ∀ depth s, 2 * s.length < n → 2 * s.length < m → assignments n depth s = assignments m depth s

theorem sameValue_succ (hitems : SameItems n m) (hpairs : SameAssignments n m) :
    SameValue (n + 1) (m + 1) := by
  intro depth s hn hm
  unfold value
  split
  any_goals rfl
  · next r =>
    have hblank := length_skipBlank m r
    rw [List.length_cons] at hn hm
    dsimp only
    split
    · rfl
    · rw [skipBlank_eq (n := n) (m := m) (by omega) (by omega), hitems _ _ (by omega) (by omega)]
  · next r =>
    have hspace := length_skipSpace r
    rw [List.length_cons] at hn hm
    dsimp only
    split
    · rfl
    split
    · rfl
    · rw [hpairs _ _ (by omega) (by omega)]

theorem sameItems_succ (hvalue : SameValue n m) (hitems : SameItems n m) :
    SameItems (n + 1) (m + 1) := by
  intro depth s hn hm
  unfold arrayItems
  split
  · rfl
  rw [hvalue _ _ (by omega) (by omega)]
  refine (leaves_value m depth s).bind_congr fun v r hr => ?_
  have hblank := length_skipBlank m r
  dsimp only
  rw [skipBlank_eq (n := n) (m := m) (s := r) (by omega) (by omega)]
  split
  · next r' hr' =>
    rw [hr', List.length_cons] at hblank
    have hrest := length_skipBlank m r'
    rw [skipBlank_eq (n := n) (m := m) (s := r') (by omega) (by omega),
      hitems _ _ (by omega) (by omega)]
  · rfl
  · rfl

theorem sameAssignments_succ (hvalue : SameValue n m) (hpairs : SameAssignments n m) :
    SameAssignments (n + 1) (m + 1) := by
  intro depth s hn hm
  unfold assignments
  refine (leaves_key s).bind_congr fun k r hr => ?_
  refine Option.bind_congr fun y hchar => ?_
  obtain ⟨u, r'⟩ := y
  have hlt := length_char hchar
  have hspace := length_skipSpace r'
  dsimp only
  rw [hvalue _ _ (by omega) (by omega)]
  refine (leaves_value m depth _).bind_congr fun v r hr => ?_
  have hspace' := length_skipSpace r
  dsimp only
  split
  · next r' hr' =>
    rw [hr', List.length_cons] at hspace'
    rw [hpairs _ _ (by omega) (by omega)]
  · rfl
  · rfl

/-- Whatever fuel there is above twice the length of the text, the same is read. -/
theorem same_values (n m : ℕ) : SameValue n m ∧ SameItems n m ∧ SameAssignments n m := by
  induction n generalizing m with
  | zero => exact ⟨nofun, nofun, nofun⟩
  | succ n ih =>
    cases m with
    | zero => exact ⟨nofun, nofun, nofun⟩
    | succ m =>
      obtain ⟨hvalue, hitems, hpairs⟩ := ih m
      exact ⟨sameValue_succ hitems hpairs, sameItems_succ hvalue hitems,
        sameAssignments_succ hvalue hpairs⟩

theorem statement_eq (hn : 2 * s.length ≤ n) (hm : 2 * s.length ≤ m) :
    statement n s = statement m s := by
  unfold statement
  split
  · rfl
  · rfl
  · refine (leaves_key s).bind_congr fun k r hr => ?_
    refine Option.bind_congr fun y hchar => ?_
    obtain ⟨u, r'⟩ := y
    have hlt := length_char hchar
    have hspace := length_skipSpace r'
    dsimp only
    rw [(same_values n m).1 _ _ (by omega) (by omega)]

end Fuel

section Reads

inductive Reads : List Char → List Statement → List Char → Prop where
  | done (s : List Char) : Reads s [] s
  | next {s r s' : List Char} {st : Statement} {ss : List Statement}
    (hstatement : statement (2 * s.length) (skipBlank s.length s) = some (st, r))
    (h : Reads r ss s') : Reads s (st :: ss) s'

def IsBlank (s : List Char) : Prop := skipBlank s.length s = []

instance : Decidable (IsBlank s) := inferInstanceAs (Decidable (_ = _))

variable {s' : List Char} {ss ss' : List Statement} {pairs : List (String × String)}

theorem Reads.append (h : Reads s ss r) (h' : Reads r ss' s') : Reads s (ss ++ ss') s' := by
  induction h with
  | done => exact h'
  | next hstatement _ ih => exact .next hstatement (ih h')

theorem reads_header {k : Key} {t : List Char} (hblank : skipBlank s.length s = '[' :: r)
    (hkey : key r = some (k, ']' :: t)) (hend : endLine t = some s') :
    Reads s [.header k] s' :=
  .next (hblank ▸ statement_header hkey hend) (.done s')

/-- The lines of entries are assignments of strings to simple keys. -/
theorem EntryLines.reads (h : EntryLines pairs s r) :
    Reads s (pairs.map fun p => .assign [p.1] (.string p.2)) r := by
  induction h with
  | done => exact .done _
  | @next p ps s r s' hline _ ih =>
    have hlt := length_statement (statement_entryLine Nat.one_pos hline)
    have hpos : 0 < 2 * s.length := by
      have hblank := length_skipBlank s.length s
      omega
    exact .next (statement_entryLine hpos hline) ih

/-- The statements of a text are those that stand in it up to blanks. -/
theorem statements_eq_some_iff (hn : 2 * s.length + 1 < n) :
    statements n s = some ss ↔ ∃ r, Reads s ss r ∧ IsBlank r := by
  induction n generalizing s ss with
  | zero => omega
  | succ n ih =>
    have hblank : skipBlank (n + 1) s = skipBlank s.length s :=
      skipBlank_eq (by omega) (Nat.le_refl _)
    have hlength := length_skipBlank s.length s
    have hfuel := statement_eq (n := n) (m := 2 * s.length) (s := skipBlank s.length s)
      (by omega) (by omega)
    rw [statements, hblank]
    constructor
    · intro h
      split at h
      · next hnil =>
        cases h
        exact ⟨s, .done s, hnil⟩
      · obtain ⟨⟨st, r⟩, hst, h⟩ := Option.bind_eq_some_iff.mp h
        obtain ⟨ss, hss, h⟩ := Option.bind_eq_some_iff.mp h
        cases h
        have hlt := length_statement hst
        obtain ⟨r', hreads, hr'⟩ := (ih (by omega)).mp hss
        exact ⟨r', .next (hfuel ▸ hst) hreads, hr'⟩
    · rintro ⟨r, hreads, hr⟩
      cases hreads with
      | done => rw [hr]
      | @next _ r' _ st ss hstatement hrest =>
        have hlt := length_statement hstatement
        split
        · next hnil =>
          rw [hnil] at hlt
          exact absurd hlt (Nat.not_lt_zero _)
        · rw [hfuel, hstatement]
          simp only [Option.bind_eq_bind, Option.bind_some]
          rw [(ih (by omega)).mpr ⟨r, hrest, hr⟩]
          rfl

end Reads

end Reader

/-- A document is what the statements of its text make of each other. -/
theorem ofText_eq_some_iff {text : String} {es : List (String × Toml)} :
    ofText text = some es ↔ ∃ ss r, Reader.Reads (Reader.withoutMark text.toList) ss r ∧
      Reader.IsBlank r ∧ ofStatements ss = some es := by
  rw [ofText, Option.bind_eq_bind, Option.bind_eq_some_iff]
  constructor
  · rintro ⟨ss, hss, h⟩
    obtain ⟨r, hreads, hr⟩ := (Reader.statements_eq_some_iff (Nat.lt_succ_self _)).mp hss
    exact ⟨ss, r, hreads, hr, h⟩
  · rintro ⟨ss, r, hreads, hr, h⟩
    exact ⟨ss, (Reader.statements_eq_some_iff (Nat.lt_succ_self _)).mpr ⟨r, hreads, hr⟩, h⟩

end Testbed.Toml
