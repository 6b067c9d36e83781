import Testbed.Proofs.Toml.Changes

/-!
# A table beside others

A table with a header of its own is found in the document as it was written, whatever the
statements before and after it say of other tables, and they do the same with and without it: each
changes the document at the first key of its path and reads no other.
-/

namespace Testbed.Toml

section Beside

variable {j k : String} {E : Option Item} {es es' : Entries}

/-- The same entries with an item under a key that is free without it. -/
structure Adds (k : String) (E : Option Item) (es es' : Entries) : Prop where
  same : ∀ l ≠ k, find? l es' = find? l es
  free : find? k es = none
  added : find? k es' = E

/-- The same item with an entry in it under a key. A table that is not there without the entry
stands there for the entry's sake. -/
inductive AddsIn (k : String) : Option Item → Option Item → Option Item → Prop where
  | nothing : AddsIn k none none none
  | alone (e : Item) : AddsIn k (some e) none (some (.table true false [(k, e)]))
  | table {E : Option Item} {es es' : Entries} (isImplicit isDotted : Bool) (h : Adds k E es es') :
    AddsIn k E (some (.table isImplicit isDotted es)) (some (.table isImplicit isDotted es'))

structure AddsBelow (j k : String) (E : Option Item) (es es' : Entries) : Prop where
  same : ∀ l ≠ j, find? l es' = find? l es
  below : AddsIn k E (find? j es) (find? j es')

theorem adds_nil : Adds k none [] [] := ⟨fun _ _ => rfl, rfl, rfl⟩

theorem adds_singleton (e : Item) : Adds k (some e) [] [(k, e)] := by
  refine ⟨fun l hl => ?_, rfl, ?_⟩
  · rw [find?_cons, if_neg (Ne.symm hl)]
  · rw [find?_cons, if_pos rfl]

/-- A change elsewhere is the same with the item and without it. -/
theorem Adds.changeAt (h : Adds k E es es') {l : String} (hl : l ≠ k)
    {c : Option Item → Option Item} {new : Entries} (hnew : Toml.changeAt l c es = some new) :
    ∃ new', Toml.changeAt l c es' = some new' ∧ Adds k E new new' := by
  obtain ⟨i, hi, rfl⟩ := Option.map_eq_some_iff.mp hnew
  refine ⟨put l i es', ?_, ?_, ?_, ?_⟩
  · rw [Toml.changeAt, h.same l hl, hi, Option.map_some]
  · intro m hm
    rw [find?_put, find?_put, h.same m hm]
  · rw [find?_put, if_neg hl, h.free]
  · rw [find?_put, if_neg hl, h.added]

theorem AddsBelow.changeAt_ne (h : AddsBelow j k E es es') {l : String} (hl : l ≠ j)
    {c : Option Item → Option Item} {new : Entries} (hnew : changeAt l c es = some new) :
    ∃ new', changeAt l c es' = some new' ∧ AddsBelow j k E new new' := by
  obtain ⟨i, hi, rfl⟩ := Option.map_eq_some_iff.mp hnew
  refine ⟨put l i es', ?_, ?_, ?_⟩
  · rw [changeAt, h.same l hl, hi, Option.map_some]
  · intro m hm
    rw [find?_put, find?_put, h.same m hm]
  · rw [find?_put, find?_put, if_neg hl, if_neg hl]
    exact h.below

def KeepsIn (k : String) (E : Option Item) (c : Option Item → Option Item) : Prop :=
  ∀ ⦃o o' : Option Item⦄ ⦃i : Item⦄, AddsIn k E o o' → c o = some i →
    ∃ i', c o' = some i' ∧ AddsIn k E (some i) (some i')

theorem AddsBelow.changeAt_self (h : AddsBelow j k E es es') {c : Option Item → Option Item}
    (hc : KeepsIn k E c) {new : Entries} (hnew : changeAt j c es = some new) :
    ∃ new', changeAt j c es' = some new' ∧ AddsBelow j k E new new' := by
  obtain ⟨i, hi, rfl⟩ := Option.map_eq_some_iff.mp hnew
  obtain ⟨i', hi', hadds⟩ := hc h.below hi
  refine ⟨put j i' es', ?_, ?_, ?_⟩
  · rw [changeAt, hi', Option.map_some]
  · intro m hm
    rw [find?_put, find?_put, if_neg (Ne.symm hm), if_neg (Ne.symm hm), h.same m hm]
  · rw [find?_put, find?_put, if_pos rfl, if_pos rfl]
    exact hadds

def Keeps (k : String) (E : Option Item) (g : Bool → Entries → Option Entries) : Prop :=
  ∀ ⦃isDotted : Bool⦄ ⦃es es' new : Entries⦄, Adds k E es es' → g isDotted es = some new →
    ∃ new', g isDotted es' = some new' ∧ Adds k E new new'

theorem keeps_of_changeAt {l : String} (hl : l ≠ k) {g : Bool → Entries → Option Entries}
    (hg : ∀ isDotted, ∃ c, g isDotted = changeAt l c) : Keeps k E g := by
  intro isDotted es es' new h hnew
  obtain ⟨c, hc⟩ := hg isDotted
  rw [hc] at hnew ⊢
  exact h.changeAt hl hnew

theorem descend_eq_none {dotted : Bool} {f : Bool → Entries → Option Entries}
    (hf : ∀ isDotted es, f isDotted es = none) (path : Key) (isDotted : Bool) (es : Entries) :
    descend dotted f path isDotted es = none := by
  induction path generalizing isDotted es with
  | nil => exact hf isDotted es
  | cons l r ih =>
    rw [descend_cons_eq, changeAt]
    have hentered (o : Option Item) : entered dotted (descend dotted f r) o = none := by
      rcases o with _ | (_ | _ | _) <;> simp [entered, ih]
    rw [hentered]
    rfl

theorem keeps_descend {dotted : Bool} {f : Bool → Entries → Option Entries} {path : Key}
    (hpath : ∀ l ∈ path.head?, l ≠ k) (hf : path = [] → Keeps k E f) :
    Keeps k E (descend dotted f path) := by
  cases path with
  | nil =>
    intro isDotted es es' new h hnew
    exact hf rfl h hnew
  | cons l r =>
    exact keeps_of_changeAt (hpath l rfl) fun isDotted => ⟨_, descend_cons_eq dotted f l r isDotted⟩

theorem keepsIn_entered {dotted : Bool} (hdotted : E = none ∨ dotted = false)
    {g : Bool → Entries → Option Entries} (hg : Keeps k E g) : KeepsIn k E (entered dotted g) := by
  intro o o' i h hi
  cases h with
  | nothing =>
    obtain ⟨new, hnew, rfl⟩ := Option.map_eq_some_iff.mp hi
    obtain ⟨new', hnew', hadds⟩ := hg adds_nil hnew
    obtain rfl := Option.some.inj (hnew.symm.trans hnew')
    exact ⟨_, hi, .table true dotted hadds⟩
  | alone e =>
    obtain rfl : dotted = false := hdotted.resolve_left (Option.some_ne_none e)
    obtain ⟨new, hnew, rfl⟩ := Option.map_eq_some_iff.mp hi
    obtain ⟨new', hnew', hadds⟩ := hg (adds_singleton e) hnew
    refine ⟨_, ?_, .table true false hadds⟩
    simp [entered, hnew']
  | table isImplicit isDotted h =>
    simp only [entered] at hi ⊢
    split_ifs at hi ⊢
    obtain ⟨new, hnew, rfl⟩ := Option.map_eq_some_iff.mp hi
    obtain ⟨new', hnew', hadds⟩ := hg h hnew
    exact ⟨_, by rw [hnew', Option.map_some], .table isImplicit isDotted hadds⟩

theorem keepsIn_opened : KeepsIn k E opened := by
  intro o o' i h hi
  cases h with
  | nothing => exact ⟨i, hi, by cases hi; exact .table false false adds_nil⟩
  | alone e => exact ⟨_, rfl, by cases hi; exact .table false false (adds_singleton e)⟩
  | table isImplicit isDotted h =>
    cases isImplicit <;> cases isDotted <;> cases hi
    exact ⟨_, rfl, .table false false h⟩

theorem put_singleton (e e' : Item) : put k e' [(k, e)] = [(k, e')] := by simp [put]

theorem AddsBelow.change (h : AddsBelow j k E es es') {c : Option Item → Option Item} {e : Item}
    (hc : c E = some e) {g : Bool → Entries → Option Entries}
    (hg : ∀ isDotted, g isDotted = Toml.changeAt k c) :
    ∃ new', Toml.changeAt j (entered false g) es' = some new' ∧ AddsBelow j k (some e) es new' := by
  obtain ⟨i, hi, hadds⟩ : ∃ i, entered false g (find? j es') = some i ∧
      AddsIn k (some e) (find? j es) (some i) := by
    have hbelow := h.below
    generalize find? j es = o at hbelow ⊢
    generalize find? j es' = o' at hbelow ⊢
    cases hbelow with
    | nothing =>
      refine ⟨_, ?_, .alone e⟩
      simp [entered, hg, Toml.changeAt, hc, put]
    | alone e₀ =>
      refine ⟨_, ?_, .alone e⟩
      simp [entered, hg, Toml.changeAt, find?_cons, hc, put_singleton]
    | table isImplicit isDotted hinner =>
      rename_i inner inner'
      refine ⟨.table isImplicit isDotted (put k e inner'), ?_, .table isImplicit isDotted ?_⟩
      · simp [entered, hg, Toml.changeAt, hinner.added, hc]
      · refine ⟨fun l hl => ?_, hinner.free, ?_⟩
        · rw [find?_put, if_neg (Ne.symm hl), hinner.same l hl]
        · rw [find?_put, if_pos rfl]
  refine ⟨put j i es', ?_, fun l hl => ?_, ?_⟩
  · rw [Toml.changeAt, hi, Option.map_some]
  · rw [find?_put, if_neg (Ne.symm hl), h.same l hl]
  · rw [find?_put, if_pos rfl]
    exact hadds

theorem head_ne_of_not_prefix {path : Key} (h : ¬[j, k] <+: j :: path) :
    ∀ l ∈ path.head?, l ≠ k := by
  rintro l hl rfl
  cases path with
  | nil => cases hl
  | cons m r =>
    obtain rfl := Option.some.inj hl
    exact h ⟨r, rfl⟩

theorem AddsBelow.descend (h : AddsBelow j k E es es') {path : Key} {x : String}
    {f : Bool → Entries → Option Entries} {c : Option Item → Option Item}
    (hf : ∀ isDotted, f isDotted = changeAt x c) (hoff : ¬[j, k] <+: path ++ [x])
    (hself : path = [] → x = j → KeepsIn k E c) {new : Entries}
    (hnew : Toml.descend false f path false es = some new) :
    ∃ new', Toml.descend false f path false es' = some new' ∧ AddsBelow j k E new new' := by
  cases path with
  | nil =>
    simp only [Toml.descend, hf] at hnew ⊢
    by_cases hx : x = j
    · rw [hx] at hnew ⊢
      exact h.changeAt_self (hself rfl hx) hnew
    · exact h.changeAt_ne hx hnew
  | cons l r =>
    rw [descend_cons_eq] at hnew ⊢
    by_cases hl : l = j
    · rw [hl] at hnew hoff ⊢
      have hhead : ∀ m ∈ (r ++ [x]).head?, m ≠ k := head_ne_of_not_prefix hoff
      refine h.changeAt_self (keepsIn_entered (.inr rfl) (keeps_descend ?_ ?_)) hnew
      · intro m hm
        refine hhead m ?_
        rw [List.head?_append, hm]
        rfl
      · rintro rfl
        exact keeps_of_changeAt (hhead x rfl) fun isDotted => ⟨c, hf isDotted⟩
    · exact h.changeAt_ne hl hnew

end Beside

section Statements

variable (j k : String)

/-- The statement names nothing below the two keys and leaves the first one a table. -/
def Statement.KeepsOff (current : Key) : Statement → Prop
  | .header key => ¬[j, k] <+: key
  | .arrayHeader key => ¬[j, k] <+: key ∧ key ≠ [j]
  | .assign key _ => ¬[j, k] <+: current ++ key ∧ current ++ key ≠ [j]

def Statement.opens (current : Key) : Statement → Key
  | .header key => key
  | .arrayHeader key => key
  | .assign _ _ => current

def Statement.IsHeader : Statement → Prop
  | .assign _ _ => False
  | _ => True

def KeepOff : Key → List Statement → Prop
  | _, [] => True
  | current, st :: ss => st.KeepsOff j k current ∧ KeepOff (st.opens current) ss

instance (current : Key) : (st : Statement) → Decidable (st.KeepsOff j k current)
  | .header key => inferInstanceAs (Decidable (¬[j, k] <+: key))
  | .arrayHeader key => inferInstanceAs (Decidable (¬[j, k] <+: key ∧ key ≠ [j]))
  | .assign key _ =>
    inferInstanceAs (Decidable (¬[j, k] <+: current ++ key ∧ current ++ key ≠ [j]))

instance instDecidableKeepOff :
    (current : Key) → (ss : List Statement) → Decidable (KeepOff j k current ss)
  | _, [] => inferInstanceAs (Decidable True)
  | current, st :: ss =>
    have : Decidable (KeepOff j k (st.opens current) ss) := instDecidableKeepOff _ ss
    inferInstanceAs (Decidable (st.KeepsOff j k current ∧ KeepOff j k (st.opens current) ss))

instance : (st : Statement) → Decidable st.IsHeader
  | .header _ => inferInstanceAs (Decidable True)
  | .arrayHeader _ => inferInstanceAs (Decidable True)
  | .assign _ _ => inferInstanceAs (Decidable False)

variable {j k : String} {E : Option Item} {b b' b₁ : Builder} {st : Statement}

theorem splitLast?_eq_some_iff {key path : Key} {x : String} :
    splitLast? key = some (path, x) ↔ key = path ++ [x] := by
  rcases List.eq_nil_or_concat' key with rfl | ⟨path', x', rfl⟩
  · simp [splitLast?]
  · simp [splitLast?]

/-- What a header does, whichever kind of table it opens. -/
theorem opening_eq_some_iff {key : Key} (f : String → Bool → Entries → Option Entries) :
    (do let (path, x) ← splitLast? key
        return (⟨← descend false (f x) path false b.root, key⟩ : Builder)) = some b₁ ↔
    ∃ path x, key = path ++ [x] ∧ descend false (f x) path false b.root = some b₁.root ∧
      b₁.current = key := by
  constructor
  · intro h
    obtain ⟨⟨path, x⟩, hsplit, h⟩ := Option.bind_eq_some_iff.mp h
    obtain ⟨root, hroot, h⟩ := Option.bind_eq_some_iff.mp h
    obtain rfl := Option.some.inj h
    exact ⟨path, x, splitLast?_eq_some_iff.mp hsplit, hroot, rfl⟩
  · rintro ⟨path, x, hkey, hroot, hcurrent⟩
    rw [splitLast?_eq_some_iff.mpr hkey]
    simp only [Option.bind_eq_bind, Option.bind_some, hroot, Option.pure_def, ← hcurrent]

theorem step_header_eq_some_iff {key : Key} : b.step (.header key) = some b₁ ↔
    ∃ path x, key = path ++ [x] ∧
      descend false (fun _ => openTable x) path false b.root = some b₁.root ∧ b₁.current = key :=
  opening_eq_some_iff fun x _ => openTable x

theorem step_arrayHeader_eq_some_iff {key : Key} : b.step (.arrayHeader key) = some b₁ ↔
    ∃ path x, key = path ++ [x] ∧
      descend false (fun _ => openArrayTable x) path false b.root = some b₁.root ∧
      b₁.current = key :=
  opening_eq_some_iff fun x _ => openArrayTable x

theorem step_assign_eq_some_iff {key : Key} {v : Toml} : b.step (.assign key v) = some b₁ ↔
    descend false (fun _ => assign key (.value v)) b.current false b.root = some b₁.root ∧
      b₁.current = b.current := by
  constructor
  · intro h
    obtain ⟨root, hroot, h⟩ := Option.bind_eq_some_iff.mp h
    obtain rfl := Option.some.inj h
    exact ⟨hroot, rfl⟩
  · rintro ⟨hroot, hcurrent⟩
    obtain ⟨root, current⟩ := b₁
    obtain rfl : current = b.current := hcurrent
    simp only [Builder.step, hroot]
    rfl

theorem current_of_step (h : b.step st = some b₁) : b₁.current = st.opens b.current := by
  cases st with
  | header key =>
    obtain ⟨_, _, -, -, hcurrent⟩ := step_header_eq_some_iff.mp h
    exact hcurrent
  | arrayHeader key =>
    obtain ⟨_, _, -, -, hcurrent⟩ := step_arrayHeader_eq_some_iff.mp h
    exact hcurrent
  | assign key v => exact (step_assign_eq_some_iff.mp h).2

theorem current_ne_nil_of_step (h : b.step st = some b₁) (hopen : b.current ≠ [] ∨ st.IsHeader) :
    b₁.current ≠ [] := by
  cases st with
  | header key =>
    obtain ⟨path, x, rfl, -, hcurrent⟩ := step_header_eq_some_iff.mp h
    rw [hcurrent]
    exact List.concat_ne_nil x path
  | arrayHeader key =>
    obtain ⟨path, x, rfl, -, hcurrent⟩ := step_arrayHeader_eq_some_iff.mp h
    rw [hcurrent]
    exact List.concat_ne_nil x path
  | assign key v =>
    rw [(step_assign_eq_some_iff.mp h).2]
    exact hopen.resolve_right id

/-- An assignment that keeps off does the same beside the item. -/
theorem assign_beside {es es' new : Entries} (hroot : AddsBelow j k E es es') {current key : Key}
    {i : Item} (hopen : E = none ∨ current ≠ [])
    (hoff : ¬[j, k] <+: current ++ key ∧ current ++ key ≠ [j])
    (h : descend false (fun _ => assign key i) current false es = some new) :
    ∃ new', descend false (fun _ => assign key i) current false es' = some new' ∧
      AddsBelow j k E new new' := by
  cases key with
  | nil =>
    have hnone : descend false (fun _ => assign [] i) current false es = none :=
      descend_eq_none (fun _ _ => rfl) current false es
    exact absurd h (by simp [hnone])
  | cons x r =>
    cases current with
    | nil =>
      simp only [descend] at h ⊢
      have hE : E = none := hopen.resolve_right fun hne => hne rfl
      by_cases hx : x = j
      · subst hx
        have hr : r ≠ [] := by
          rintro rfl
          exact hoff.2 rfl
        have hhead := head_ne_of_not_prefix hoff.1
        rw [assign_cons_eq x hr] at h ⊢
        obtain ⟨r, y, rfl⟩ := (List.eq_nil_or_concat' r).resolve_left hr
        simp only [List.dropLast_concat, List.getLast_concat] at h ⊢
        refine hroot.changeAt_self (keepsIn_entered (.inl hE) (keeps_descend ?_ ?_)) h
        · intro l hl
          exact hhead l (by rw [List.head?_append, hl]; rfl)
        · rintro rfl
          exact keeps_of_changeAt (hhead y rfl) fun isDotted => ⟨_, define_eq false y i isDotted⟩
      · obtain ⟨c, hc⟩ := exists_assign_eq x r i
        rw [hc] at h ⊢
        exact hroot.changeAt_ne hx h
    | cons l cs =>
      obtain ⟨c, hc⟩ := exists_assign_eq x r i
      refine hroot.descend (fun _ => hc) (fun hpre => hoff.1 ?_) (fun hnil => by cases hnil) h
      exact hpre.trans ⟨r, by simp⟩

theorem step_beside (hroot : AddsBelow j k E b.root b'.root)
    (hcurrent : b'.current = b.current ∨ st.IsHeader)
    (hopen : E = none ∨ b.current ≠ [] ∨ st.IsHeader) (hoff : st.KeepsOff j k b.current)
    (h : b.step st = some b₁) :
    ∃ b₁', b'.step st = some b₁' ∧ AddsBelow j k E b₁.root b₁'.root ∧ b₁'.current = b₁.current := by
  cases st with
  | header key =>
    obtain ⟨path, x, rfl, hnew, hkey⟩ := step_header_eq_some_iff.mp h
    obtain ⟨new', hnew', hadds⟩ := hroot.descend (fun _ => openTable_eq x) hoff
      (fun _ _ => keepsIn_opened) hnew
    exact ⟨⟨new', _⟩, step_header_eq_some_iff.mpr ⟨path, x, rfl, hnew', rfl⟩, hadds, hkey.symm⟩
  | arrayHeader key =>
    obtain ⟨path, x, rfl, hnew, hkey⟩ := step_arrayHeader_eq_some_iff.mp h
    obtain ⟨new', hnew', hadds⟩ := hroot.descend (fun _ => openArrayTable_eq x) hoff.1
      (fun hpath hx => absurd (by rw [hpath, hx]; rfl) hoff.2) hnew
    exact ⟨⟨new', _⟩, step_arrayHeader_eq_some_iff.mpr ⟨path, x, rfl, hnew', rfl⟩, hadds,
      hkey.symm⟩
  | assign key v =>
    obtain ⟨hnew, hkey⟩ := step_assign_eq_some_iff.mp h
    have hcurrent := hcurrent.resolve_right id
    obtain ⟨new', hnew', hadds⟩ :=
      assign_beside hroot (hopen.imp_right fun h => h.resolve_right id) hoff hnew
    exact ⟨⟨new', _⟩, step_assign_eq_some_iff.mpr ⟨hcurrent ▸ hnew', rfl⟩, hadds,
      hcurrent.trans hkey.symm⟩

theorem foldlM_beside {ss : List Statement} (hroot : AddsBelow j k E b.root b'.root)
    (hcurrent : b'.current = b.current ∨ ∀ st ∈ ss.head?, st.IsHeader)
    (hopen : E = none ∨ b.current ≠ [] ∨ ∀ st ∈ ss.head?, st.IsHeader)
    (hoff : KeepOff j k b.current ss) (h : ss.foldlM Builder.step b = some b₁) :
    ∃ b₁', ss.foldlM Builder.step b' = some b₁' ∧ AddsBelow j k E b₁.root b₁'.root := by
  induction ss generalizing b b' with
  | nil =>
    obtain rfl := Option.some.inj h
    exact ⟨b', rfl, hroot⟩
  | cons st ss ih =>
    rw [List.foldlM_cons] at h
    obtain ⟨b₂, hstep, h⟩ := Option.bind_eq_some_iff.mp h
    obtain ⟨b₂', hstep', hroot', hcurrent'⟩ := step_beside hroot
      (hcurrent.imp_right fun h => h st rfl) (hopen.imp_right (Or.imp_right fun h => h st rfl))
      hoff.1 hstep
    have hopen' : E = none ∨ b₂.current ≠ [] :=
      hopen.imp_right fun h => current_ne_nil_of_step hstep (h.imp_right fun h => h st rfl)
    obtain ⟨b₁', hrun, hadds⟩ := ih hroot' (.inl hcurrent') (hopen'.imp_right .inl)
      (current_of_step hstep ▸ hoff.2) h
    refine ⟨b₁', ?_, hadds⟩
    rw [List.foldlM_cons, hstep']
    exact hrun

theorem keepOff_append {current : Key} {ss ss' : List Statement} :
    KeepOff j k current (ss ++ ss') ↔
      KeepOff j k current ss ∧ KeepOff j k (ss.foldl (fun c st => st.opens c) current) ss' := by
  induction ss generalizing current with
  | nil => simp [KeepOff]
  | cons st ss ih => rw [List.cons_append, KeepOff, KeepOff, ih, List.foldl_cons, and_assoc]

theorem current_of_foldlM {ss : List Statement} (h : ss.foldlM Builder.step b = some b₁) :
    b₁.current = ss.foldl (fun c st => st.opens c) b.current := by
  induction ss generalizing b with
  | nil =>
    obtain rfl := Option.some.inj h
    rfl
  | cons st ss ih =>
    rw [List.foldlM_cons] at h
    obtain ⟨b₂, hstep, h⟩ := Option.bind_eq_some_iff.mp h
    rw [ih h, current_of_step hstep, List.foldl_cons]

/-- The assignments of a table that is open are its entries. -/
theorem foldlM_assign {es : Entries} {entries : Entries}
    (hroot : AddsBelow j k (some (.table false false entries)) es b.root)
    (hcurrent : b.current = [j, k]) {pairs : List (String × Toml)}
    (hnodup : (pairs.map Prod.fst).Nodup) (hnew : ∀ p ∈ pairs, find? p.1 entries = none) :
    ∃ b₁, (pairs.map fun p => Statement.assign [p.1] p.2).foldlM Builder.step b = some b₁ ∧
      AddsBelow j k (some (.table false false (entries ++ pairs.map fun p => (p.1, .value p.2))))
        es b₁.root := by
  induction pairs generalizing b entries with
  | nil => exact ⟨b, rfl, by simpa using hroot⟩
  | cons p pairs ih =>
    rw [List.map_cons, List.nodup_cons] at hnodup
    have hput : put p.1 (.value p.2) entries = entries ++ [(p.1, .value p.2)] := by
      rw [put, any_key_iff, hnew p List.mem_cons_self, Option.isSome_none,
        if_neg Bool.false_ne_true]
    have hinner : entered false (descend false (fun _ => assign [p.1] (.value p.2)) [])
        (some (.table false false entries)) =
          some (.table false false (entries ++ [(p.1, .value p.2)])) := by
      simp [entered, descend, assign_singleton_eq, changeAt, hnew p List.mem_cons_self, hput]
    obtain ⟨root, hroot', hadds⟩ := hroot.change hinner
      fun isDotted => descend_cons_eq false (fun _ => assign [p.1] (.value p.2)) k [] isDotted
    have hstep : b.step (.assign [p.1] p.2) = some ⟨root, b.current⟩ := by
      rw [step_assign_eq_some_iff, hcurrent, descend_cons_eq]
      exact ⟨hroot', rfl⟩
    have hnew' : ∀ q ∈ pairs, find? q.1 (entries ++ [(p.1, .value p.2)]) = none := by
      intro q hq
      have hne : p.1 ≠ q.1 := fun h => hnodup.1 (h ▸ List.mem_map_of_mem hq)
      rw [find?_append, hnew q (List.mem_cons_of_mem _ hq), find?_cons, if_neg hne]
      rfl
    obtain ⟨b₁, hrun, hadds'⟩ := ih (b := ⟨root, b.current⟩) hadds hcurrent hnodup.2 hnew'
    refine ⟨b₁, ?_, by simpa using hadds'⟩
    rw [List.map_cons, List.foldlM_cons, hstep]
    exact hrun

/-- Nothing stands where no statement has put anything. -/
theorem free_of_foldlM {ss : List Statement} (hoff : KeepOff j k [] ss)
    (h : ss.foldlM Builder.step ⟨[], []⟩ = some b) : AddsBelow j k none b.root b.root := by
  have hempty : AddsBelow j k none [] [] := ⟨fun _ _ => rfl, .nothing⟩
  obtain ⟨b', hb', hadds⟩ : ∃ b', ss.foldlM Builder.step ⟨[], []⟩ = some b' ∧
      AddsBelow j k none b.root b'.root :=
    foldlM_beside hempty (.inl rfl) (.inl rfl) hoff h
  obtain rfl := Option.some.inj (h.symm.trans hb')
  exact hadds

theorem exists_header (hfree : AddsBelow j k none b.root b.root) :
    ∃ root, b.step (.header [j, k]) = some ⟨root, [j, k]⟩ ∧
      AddsBelow j k (some (.table false false [])) b.root root := by
  obtain ⟨root, hroot, hadds⟩ := hfree.change (c := opened) rfl
    (g := descend false (fun _ => openTable k) []) fun _ => openTable_eq k
  refine ⟨root, step_header_eq_some_iff.mpr ⟨[j], k, rfl, ?_, rfl⟩, hadds⟩
  rw [descend_cons_eq]
  exact hroot

/-- A table of its own is in the document as it was written, and the rest is as it is without. -/
theorem ofStatements_beside {ss ss' : List Statement} {pairs : List (String × Toml)}
    (hoff : KeepOff j k [] (ss ++ ss')) (hhead : ∀ st ∈ ss'.head?, st.IsHeader)
    (hnodup : (pairs.map Prod.fst).Nodup) {es : List (String × Toml)}
    (h : ofStatements (ss ++ ss') = some es) :
    ∃ root root', es = entriesToToml root ∧
      ofStatements (ss ++ (.header [j, k] :: pairs.map (fun p => .assign [p.1] p.2)) ++ ss') =
        some (entriesToToml root') ∧
      AddsBelow j k (some (.table false false (pairs.map fun p => (p.1, .value p.2))))
        root root' := by
  obtain ⟨b, hb, h⟩ := Option.bind_eq_some_iff.mp h
  obtain rfl := Option.some.inj h
  rw [List.foldlM_append] at hb
  obtain ⟨b₁, hb₁, hb⟩ := Option.bind_eq_some_iff.mp hb
  rw [keepOff_append] at hoff
  obtain ⟨root₂, hheader, hopened⟩ := exists_header (free_of_foldlM hoff.1 hb₁)
  obtain ⟨b₃, hb₃, hfilled⟩ := foldlM_assign (b := ⟨root₂, [j, k]⟩) hopened rfl hnodup
    fun _ _ => rfl
  obtain ⟨b', hb', hadds⟩ := foldlM_beside hfilled (.inr hhead) (.inr (.inr hhead))
    (current_of_foldlM hb₁ ▸ hoff.2) hb
  refine ⟨b.root, b'.root, rfl, ?_, hadds⟩
  rw [ofStatements, List.foldlM_append, List.foldlM_append, hb₁]
  simp only [Option.bind_eq_bind, Option.bind_some, List.foldlM_cons, hheader, hb₃, hb']
  rfl

end Statements

end Testbed.Toml
