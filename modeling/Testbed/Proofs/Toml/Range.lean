import Mathlib.Data.Int.Notation
import Testbed.Proofs.Toml.Changes
import Testbed.Toml.Reader

/-!
# The range of integers

Every integer of a document that is read has 64 bits, wherever it stands. A reader checks each
integer when it reads one, and the changes that build a document only move values around.
-/

namespace Testbed.Toml

inductive IsInRange : Toml → Prop where
  | string (s : String) : IsInRange (.string s)
  | integer {n : ℤ} (hlow : -9223372036854775808 ≤ n) (hhigh : n < 9223372036854775808) :
    IsInRange (.integer n)
  | float : IsInRange .float
  | bool (b : Bool) : IsInRange (.bool b)
  | dateTime (t : String) : IsInRange (.dateTime t)
  | array {items : List Toml} (h : ∀ v ∈ items, v.IsInRange) : IsInRange (.array items)
  | table {es : List (String × Toml)} (h : ∀ e ∈ es, e.2.IsInRange) : IsInRange (.table es)

inductive Item.IsInRange : Item → Prop where
  | value {v : Toml} (h : v.IsInRange) : IsInRange (.value v)
  | table {es : Entries} (isImplicit dotted : Bool) (h : ∀ e ∈ es, e.2.IsInRange) :
    IsInRange (.table isImplicit dotted es)
  | tables {ts : List Entries} (h : ∀ es ∈ ts, ∀ e ∈ es, e.2.IsInRange) : IsInRange (.tables ts)

section Changes

variable {es es' : Entries} {k : String} {i : Item}

def Entries.AreInRange (es : Entries) : Prop := ∀ e ∈ es, e.2.IsInRange

theorem areInRange_nil : Entries.AreInRange [] := by simp [Entries.AreInRange]

theorem Entries.AreInRange.find? (h : es.AreInRange) (hi : Toml.find? k es = some i) :
    i.IsInRange := by
  obtain ⟨e, he, rfl⟩ := Option.map_eq_some_iff.mp hi
  exact h e (List.mem_of_find?_eq_some he)

theorem Entries.AreInRange.put (h : es.AreInRange) (hi : i.IsInRange) :
    Entries.AreInRange (Toml.put k i es) := by
  unfold Toml.put
  split_ifs
  · intro e he
    obtain ⟨e', he', rfl⟩ := List.mem_map.mp he
    split_ifs
    · exact hi
    · exact h e' he'
  · exact List.forall_mem_append.mpr ⟨h, by simpa using hi⟩

def IsSafe (f : Entries → Option Entries) : Prop :=
  ∀ es es', es.AreInRange → f es = some es' → es'.AreInRange

theorem isSafe_changeAt {c : Option Item → Option Item}
    (hc : ∀ o i, (∀ j, o = some j → j.IsInRange) → c o = some i → i.IsInRange) :
    IsSafe (changeAt k c) := by
  intro es es' hes h
  obtain ⟨i, hi, rfl⟩ := Option.map_eq_some_iff.mp h
  exact hes.put (hc _ i (fun j hj => hes.find? hj) hi)

theorem isSafe_openTable : IsSafe (openTable k) := by
  rw [openTable_eq]
  refine isSafe_changeAt fun o i ho h => ?_
  unfold opened at h
  split at h
  · cases h
    exact .table _ _ areInRange_nil
  · cases h
    cases ho _ rfl with
    | table _ _ h => exact .table _ _ h
  · cases h

theorem isSafe_openArrayTable : IsSafe (openArrayTable k) := by
  rw [openArrayTable_eq]
  refine isSafe_changeAt fun o i ho h => ?_
  unfold openedArray at h
  split at h
  · cases h
    exact .tables (by simp)
  · cases h
    cases ho _ rfl with
    | tables h => exact .tables (List.forall_mem_append.mpr ⟨h, by simp⟩)
  · cases h

theorem isSafe_define (simple isDotted : Bool) (hi : i.IsInRange) :
    IsSafe (define simple k i isDotted) := by
  rw [define_eq]
  refine isSafe_changeAt fun o i' ho h => ?_
  split_ifs at h
  cases h
  exact hi

/-- A change below a key is safe if it is safe in the table that the key leads to. -/
theorem isSafe_descend {dotted : Bool} {f : Bool → Entries → Option Entries}
    (hf : ∀ d, IsSafe (f d)) (path : Key) (isDotted : Bool) :
    IsSafe (descend dotted f path isDotted) := by
  induction path generalizing isDotted with
  | nil => exact hf isDotted
  | cons k path ih =>
    rw [descend_cons_eq]
    refine isSafe_changeAt fun o i ho h => ?_
    unfold entered at h
    split at h
    · obtain ⟨es, hes, rfl⟩ := Option.map_eq_some_iff.mp h
      exact .table _ _ (ih dotted _ _ areInRange_nil hes)
    · cases h
    · next ts =>
      obtain ⟨last, hlast, h⟩ := Option.bind_eq_some_iff.mp h
      obtain ⟨es, hes, rfl⟩ := Option.map_eq_some_iff.mp h
      cases ho _ rfl with
      | tables h =>
        have hes := ih false _ _ (h last (List.mem_of_getLast? hlast)) hes
        refine .tables (List.forall_mem_append.mpr ⟨fun t ht => ?_, ?_⟩)
        · exact h t (List.dropLast_subset _ ht)
        · exact List.forall_mem_singleton.mpr hes
    · next isImplicit isDotted inner =>
      split_ifs at h
      obtain ⟨es, hes, rfl⟩ := Option.map_eq_some_iff.mp h
      cases ho _ rfl with
      | table _ _ h => exact .table _ _ (ih isDotted _ _ h hes)

theorem isSafe_assign {key : Key} (hi : i.IsInRange) : IsSafe (assign key i) := by
  intro es es' hes h
  obtain ⟨⟨path, k⟩, -, h⟩ := Option.bind_eq_some_iff.mp h
  exact isSafe_descend (fun d => isSafe_define _ d hi) path false es es' hes h

end Changes

section Documents

def Statement.IsInRange : Statement → Prop
  | .assign _ v => v.IsInRange
  | _ => True

theorem Builder.areInRange_step {b b' : Builder} {st : Statement} (hb : b.root.AreInRange)
    (hst : st.IsInRange) (h : b.step st = some b') : b'.root.AreInRange := by
  cases st with
  | header key =>
    obtain ⟨⟨path, k⟩, -, h⟩ := Option.bind_eq_some_iff.mp h
    obtain ⟨root, hroot, h⟩ := Option.bind_eq_some_iff.mp h
    cases h
    exact isSafe_descend (fun _ => isSafe_openTable) path false _ _ hb hroot
  | arrayHeader key =>
    obtain ⟨⟨path, k⟩, -, h⟩ := Option.bind_eq_some_iff.mp h
    obtain ⟨root, hroot, h⟩ := Option.bind_eq_some_iff.mp h
    cases h
    exact isSafe_descend (fun _ => isSafe_openArrayTable) path false _ _ hb hroot
  | assign key v =>
    obtain ⟨root, hroot, h⟩ := Option.bind_eq_some_iff.mp h
    cases h
    exact isSafe_descend (fun _ => isSafe_assign (.value hst)) b.current false _ _ hb hroot

theorem entriesToToml_eq_map (es : Entries) :
    entriesToToml es = es.map fun e => (e.1, e.2.toToml) := by
  induction es with
  | nil => rfl
  | cons e es ih =>
    obtain ⟨k, i⟩ := e
    rw [entriesToToml, ih, List.map_cons]

theorem tablesToToml_eq_map (ts : List Entries) :
    tablesToToml ts = ts.map fun es => .table (entriesToToml es) := by
  induction ts with
  | nil => rfl
  | cons es ts ih => rw [tablesToToml, ih, List.map_cons]

theorem Item.IsInRange.toToml {i : Item} (h : i.IsInRange) : i.toToml.IsInRange := by
  induction h with
  | value h => exact h
  | table _ _ _ ih =>
    rw [Item.toToml, entriesToToml_eq_map]
    exact .table (List.forall_mem_map.mpr ih)
  | tables _ ih =>
    rw [Item.toToml, tablesToToml_eq_map]
    refine .array (List.forall_mem_map.mpr fun es hes => ?_)
    rw [entriesToToml_eq_map]
    exact .table (List.forall_mem_map.mpr (ih es hes))

theorem isInRange_entriesToToml {es : Entries} (h : es.AreInRange) :
    Toml.IsInRange (.table (entriesToToml es)) :=
  (Item.IsInRange.table false false h).toToml

/-- What every step of a fold keeps, the fold keeps. -/
theorem foldlM_keeps {α β : Type} {f : β → α → Option β} {P : β → Prop} {Q : α → Prop}
    (hf : ∀ b a b', P b → Q a → f b a = some b' → P b') {as : List α} (has : ∀ a ∈ as, Q a)
    {b b' : β} (hb : P b) (h : as.foldlM f b = some b') : P b' := by
  induction as generalizing b with
  | nil =>
    cases h
    exact hb
  | cons a as ih =>
    obtain ⟨ha, has⟩ := List.forall_mem_cons.mp has
    obtain ⟨b₁, hstep, h⟩ := Option.bind_eq_some_iff.mp h
    exact ih has (hf b a b₁ hb ha hstep) h

theorem isInRange_ofStatements {ss : List Statement} {es : List (String × Toml)}
    (hss : ∀ st ∈ ss, st.IsInRange) (h : ofStatements ss = some es) :
    Toml.IsInRange (.table es) := by
  obtain ⟨b, hb, h⟩ := Option.bind_eq_some_iff.mp h
  cases h
  exact isInRange_entriesToToml (foldlM_keeps (P := fun b => b.root.AreInRange)
    (fun _ _ _ hb hst hstep => Builder.areInRange_step hb hst hstep) hss areInRange_nil hb)

theorem isInRange_ofAssignments {pairs : List (Key × Toml)} {v : Toml}
    (hpairs : ∀ p ∈ pairs, p.2.IsInRange) (h : ofAssignments pairs = some v) : v.IsInRange := by
  obtain ⟨es, hes, h⟩ := Option.bind_eq_some_iff.mp h
  cases h
  refine isInRange_entriesToToml (foldlM_keeps (fun _ _ _ hroot hp hassign => ?_) hpairs
    areInRange_nil hes)
  exact isSafe_assign (.value hp) _ _ hroot hassign

end Documents

namespace Reader

def Yields {α : Type} (P : α → Prop) (x : Option (α × List Char)) : Prop :=
  ∀ a r, x = some (a, r) → P a

section Steps

variable {α β : Type} {P : α → Prop} {Q : β → Prop}

theorem yields_none : Yields P none := fun _ _ h => nomatch h

theorem yields_some {a : α} (h : P a) (r : List Char) : Yields P (some (a, r)) := by
  intro b r' heq
  cases heq
  exact h

theorem Yields.bind {x : Option (α × List Char)} {f : α × List Char → Option (β × List Char)}
    (hx : Yields P x) (hf : ∀ a r, P a → Yields Q (f (a, r))) : Yields Q (x >>= f) := by
  intro b r h
  obtain ⟨⟨a, r'⟩, hx', h⟩ := Option.bind_eq_some_iff.mp h
  exact hf a r' (hx a r' hx') b r h

/-- What has been read before does not matter. -/
theorem yields_after {γ : Type} {x : Option γ} {f : γ → Option (β × List Char)}
    (hf : ∀ c, Yields Q (f c)) : Yields Q (x >>= f) := by
  intro b r h
  obtain ⟨c, -, h⟩ := Option.bind_eq_some_iff.mp h
  exact hf c b r h

theorem yields_ite {c : Prop} [Decidable c] {x y : Option (α × List Char)} (hx : Yields P x)
    (hy : Yields P y) : Yields P (if c then x else y) := by
  split_ifs
  · exact hx
  · exact hy

theorem yields_orElse {x y : Option (α × List Char)} (hx : Yields P x) (hy : Yields P y) :
    Yields P (x <|> y) := by
  cases x with
  | none => exact hy
  | some a => exact hx

end Steps

section Values

variable {n : ℕ} {s : List Char}

theorem isInRange_integerOf {negative : Bool} {m : ℕ} {v : Toml}
    (h : integerOf negative m = some v) : v.IsInRange := by
  have hpow : Nat.pow 2 63 = 9223372036854775808 := rfl
  unfold integerOf at h
  split_ifs at h with _ hfits hfits <;> cases h <;> exact .integer (by omega) (by omega)

theorem yields_integerOf {negative : Bool} {m : ℕ} {r : List Char} :
    Yields Toml.IsInRange (integerOf negative m >>= fun v => some (v, r)) := by
  intro v r' h
  obtain ⟨w, hw, h⟩ := Option.bind_eq_some_iff.mp h
  cases h
  exact isInRange_integerOf hw

theorem yields_integer (s : List Char) : Yields Toml.IsInRange (integer s) := by
  have hbase (base : ℕ) (isDigit : Char → Bool) (s : List Char) :
      Yields Toml.IsInRange (numberInBase base isDigit s) :=
    yields_after fun _ => yields_after fun _ => yields_integerOf
  unfold integer
  split
  · exact hbase _ _ _
  · exact hbase _ _ _
  · exact hbase _ _ _
  · exact yields_after fun _ => yields_integerOf

theorem yields_float {x : Option (Toml × List Char)} (h : float s = some x) :
    Yields Toml.IsInRange x := by
  unfold float at h
  split at h
  · cases h
  dsimp only at h
  split at h
  · cases h
    refine yields_after fun _ => ?_
    split
    · refine yields_ite (yields_after fun _ => ?_) ?_ <;>
        exact yields_ite yields_none (yields_some .float _)
    · exact yields_ite yields_none (yields_some .float _)
  · split_ifs at h
    cases h
    exact yields_after fun _ => yields_ite yields_none (yields_some .float _)
  · cases h

theorem yields_dateTime {x : Option (Toml × List Char)} (h : dateTime s = some x) :
    Yields Toml.IsInRange x := by
  unfold dateTime at h
  split_ifs at h
  · cases h
    refine yields_after fun _ => ?_
    dsimp only
    split
    · exact yields_ite (yields_after fun _ => yields_after fun _ => yields_some (.dateTime _) _)
        (yields_some (.dateTime _) _)
    · exact yields_some (.dateTime _) _
  · cases h
    exact yields_after fun _ => yields_some (.dateTime _) _

theorem yields_numeric (s : List Char) : Yields Toml.IsInRange (numeric s) := by
  unfold numeric
  split
  · next h => exact yields_dateTime h
  · split
    · next h => exact yields_float h
    · exact yields_orElse (yields_after fun _ => yields_some .float _) (yields_integer s)

theorem yields_bool (word : String) (b : Bool) :
    Yields Toml.IsInRange ((after? word s).map (Toml.bool b, ·)) := by
  intro v r h
  obtain ⟨r', -, heq⟩ := Option.map_eq_some_iff.mp h
  cases heq
  exact .bool b

theorem yields_value_succ {depth : ℕ}
    (hitems : ∀ depth s, Yields (fun vs : List Toml => ∀ v ∈ vs, v.IsInRange)
      (arrayItems n depth s))
    (hpairs : ∀ depth s, Yields (fun ps : List (Key × Toml) => ∀ p ∈ ps, p.2.IsInRange)
      (assignments n depth s)) :
    Yields Toml.IsInRange (value (n + 1) depth s) := by
  unfold value
  split
  case h_1 | h_2 | h_3 | h_4 => exact yields_after fun _ => yields_some (.string _) _
  · split
    · exact yields_none
    · exact (hitems _ _).bind fun vs r hvs => yields_some (.array hvs) r
  · split
    · exact yields_none
    split
    · exact yields_some (.table (by simp)) _
    · refine (hpairs _ _).bind fun ps r hps v r' h => ?_
      obtain ⟨w, hw, h⟩ := Option.bind_eq_some_iff.mp h
      cases h
      exact isInRange_ofAssignments hps hw
  · exact yields_ite (yields_numeric _) (yields_orElse (yields_bool _ _) (yields_bool _ _))
  · exact yields_none

theorem yields_arrayItems_succ {depth : ℕ}
    (hvalue : ∀ depth s, Yields Toml.IsInRange (value n depth s))
    (hitems : ∀ depth s, Yields (fun vs : List Toml => ∀ v ∈ vs, v.IsInRange)
      (arrayItems n depth s)) :
    Yields (fun vs : List Toml => ∀ v ∈ vs, v.IsInRange) (arrayItems (n + 1) depth s) := by
  unfold arrayItems
  split
  · exact yields_some (by simp) _
  · refine (hvalue depth s).bind fun v r hv => ?_
    dsimp only
    split
    · refine (hitems _ _).bind fun vs r hvs => ?_
      exact yields_some (List.forall_mem_cons.mpr ⟨hv, hvs⟩) r
    · exact yields_some (List.forall_mem_singleton.mpr hv) _
    · exact yields_none

theorem yields_assignments_succ {depth : ℕ}
    (hvalue : ∀ depth s, Yields Toml.IsInRange (value n depth s))
    (hpairs : ∀ depth s, Yields (fun ps : List (Key × Toml) => ∀ p ∈ ps, p.2.IsInRange)
      (assignments n depth s)) :
    Yields (fun ps : List (Key × Toml) => ∀ p ∈ ps, p.2.IsInRange)
      (assignments (n + 1) depth s) := by
  unfold assignments
  refine yields_after fun _ => yields_after fun _ => (hvalue depth _).bind fun v r hv => ?_
  dsimp only
  split
  · refine (hpairs _ _).bind fun ps r hps => yields_some ?_ r
    exact List.forall_mem_cons.mpr ⟨hv, hps⟩
  · refine yields_some ?_ _
    exact List.forall_mem_singleton.mpr hv
  · exact yields_none

/-- A value, the items of an array and the assignments of a table have integers of 64 bits. -/
theorem yields_values (n : ℕ) :
    (∀ depth s, Yields Toml.IsInRange (value n depth s)) ∧
    (∀ depth s, Yields (fun vs : List Toml => ∀ v ∈ vs, v.IsInRange) (arrayItems n depth s)) ∧
    ∀ depth s, Yields (fun ps : List (Key × Toml) => ∀ p ∈ ps, p.2.IsInRange)
      (assignments n depth s) := by
  induction n with
  | zero => exact ⟨fun _ _ => yields_none, fun _ _ => yields_none, fun _ _ => yields_none⟩
  | succ n ih =>
    obtain ⟨hvalue, hitems, hpairs⟩ := ih
    exact ⟨fun _ _ => yields_value_succ hitems hpairs,
      fun _ _ => yields_arrayItems_succ hvalue hitems,
      fun _ _ => yields_assignments_succ hvalue hpairs⟩

theorem yields_statement (n : ℕ) (s : List Char) :
    Yields Statement.IsInRange (statement n s) := by
  unfold statement
  split
  · exact yields_after fun _ => yields_after fun _ => yields_after fun _ => yields_after fun _ =>
      yields_some trivial _
  · exact yields_after fun _ => yields_after fun _ => yields_after fun _ => yields_some trivial _
  · refine yields_after fun _ => yields_after fun _ => ?_
    refine ((yields_values n).1 _ _).bind fun v r hv => yields_after fun _ => yields_some ?_ _
    exact hv

theorem isInRange_of_statements {ss : List Statement} (h : statements n s = some ss) :
    ∀ st ∈ ss, st.IsInRange := by
  induction n generalizing s ss with
  | zero => cases h
  | succ n ih =>
    unfold statements at h
    split at h
    · cases h
      simp
    · obtain ⟨⟨st, r⟩, hst, h⟩ := Option.bind_eq_some_iff.mp h
      obtain ⟨rest, hrest, h⟩ := Option.bind_eq_some_iff.mp h
      cases h
      exact List.forall_mem_cons.mpr ⟨yields_statement n _ st r hst, ih hrest⟩

end Values

end Reader

theorem isInRange_of_ofText {text : String} {es : List (String × Toml)}
    (h : ofText text = some es) : Toml.IsInRange (.table es) := by
  obtain ⟨ss, hss, h⟩ := Option.bind_eq_some_iff.mp h
  exact isInRange_ofStatements (Reader.isInRange_of_statements hss) h

end Testbed.Toml
