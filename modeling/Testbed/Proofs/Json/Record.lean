import Testbed.Json.Decode
import Testbed.Proofs.Gives
import Testbed.Proofs.Json.Reading
import Testbed.Proofs.Text.Utf8

/-!
# Reading records

A record is written as an object of named members or as an array of its fields in their order. A
field that is left out has its default, and one that is given twice is refused, wherever the two
stand and whatever else is in the object.
-/

namespace Testbed.Json

def named (ms : List (String × Json)) : List (Option String × Json) :=
  ms.map fun m => (some m.1, m.2)

def given (names : List String) (ms : List (String × Json)) : List Json :=
  (ms.filter (·.1 ∈ names)).map Prod.snd

/-- The tree is a record with these fields: an object that has each of them at most once, among
whatever else, or an array of the first of them. -/
inductive IsRecord (names : List String) (item : String → Option Json) : Json → Prop where
  | members (ms : List (String × Json))
    (h : ∀ name ∈ names, given [name] ms = (item name).toList) :
    IsRecord names item (.object (named ms) true)
  | positions {items : List Json} (hlength : items.length ≤ names.length)
    (h : ∀ (i : ℕ) name, names[i]? = some name → item name = items[i]?) :
    IsRecord names item (.array items true)

inductive IsOptional : Option Json → Option String → Prop where
  | absent : IsOptional none none
  | null : IsOptional (some .null) none
  | text (s : String) : IsOptional (some (.string (some s))) (some s)

section Folds

variable {α β : Type} {f : α → String → Json → Except Fault α}

theorem given_cons_of_mem {names : List String} {key : String} (h : key ∈ names) (j : Json)
    (ms : List (String × Json)) : given names ((key, j) :: ms) = j :: given names ms := by
  simp [given, h]

theorem given_cons_of_notMem {names : List String} {key : String} (h : key ∉ names) (j : Json)
    (ms : List (String × Json)) : given names ((key, j) :: ms) = given names ms := by
  simp [given, h]

theorem exists_mem_of_mem_given {names : List String} {ms : List (String × Json)} {j : Json}
    (h : j ∈ given names ms) : ∃ m ∈ ms, m.2 = j := by
  obtain ⟨m, hm, rfl⟩ := List.mem_map.mp h
  exact ⟨m, (List.mem_filter.mp hm).1, rfl⟩

/-- What a slot holds when the values that are still to come have been read into it. -/
inductive Pending (read : Json → Except Fault β) : Option β → List Json → Option β → Prop where
  | rest (o : Option β) : Pending read o [] o
  | one {j : Json} {v : β} (h : read j = .ok v) : Pending read none [j] (some v)

section Slots

variable {read : Json → Except Fault β} {o o' : Option β} {names : List String} {key : String}
  {j : Json} {ms : List (String × Json)}

/-- A member of its own finds the slot empty and fills it. -/
theorem Pending.fill (h : Pending read o (given names ((key, j) :: ms)) o') (hkey : key ∈ names) :
    o = none ∧ ∃ v, read j = .ok v ∧ Pending read (some v) (given names ms) o' := by
  rw [given_cons_of_mem hkey] at h
  generalize given names ms = rest at h ⊢
  cases h with
  | one h => exact ⟨rfl, _, h, .rest _⟩

/-- A member of another slot leaves this one as it is. -/
theorem Pending.skip (h : Pending read o (given names ((key, j) :: ms)) o') (hkey : key ∉ names) :
    Pending read o (given names ms) o' := by
  rwa [given_cons_of_notMem hkey] at h

/-- A slot that a member of its own has filled was empty before it. -/
theorem Pending.one_of_fill {v : β} (hv : read j = .ok v) (hkey : key ∈ names)
    (h : Pending read (some v) (given names ms) o') :
    Pending read none (given names ((key, j) :: ms)) o' := by
  rw [given_cons_of_mem hkey]
  generalize given names ms = rest at h ⊢
  cases h with
  | rest => exact .one hv

theorem Pending.of_skip (hkey : key ∉ names) (h : Pending read o (given names ms) o') :
    Pending read o (given names ((key, j) :: ms)) o' := by
  rwa [given_cons_of_notMem hkey]

end Slots

theorem foldMembers_cons (closed : Bool) (a : α) (key : String) (j : Json)
    (r : List (Option String × Json)) :
    foldMembers f closed a ((some key, j) :: r) =
      f a key j >>= fun b => foldMembers f closed b r := rfl

/-- A reader of members gets to its end if each step leaves what is expected of the rest. -/
theorem foldMembers_eq_ok {Φ : α → List (String × Json) → Prop} {b : α}
    (hstep : ∀ {a key j ms}, Φ a ((key, j) :: ms) → ∃ a', f a key j = .ok a' ∧ Φ a' ms)
    (hend : ∀ {a}, Φ a [] → a = b) {ms : List (String × Json)} {a : α} (h : Φ a ms) :
    foldMembers f true a (named ms) = .ok b := by
  induction ms generalizing a with
  | nil => rw [hend h]; rfl
  | cons m ms ih =>
    obtain ⟨a', hread, hrest⟩ := hstep h
    rw [named, List.map_cons, foldMembers_cons, hread, ← named]
    exact ih hrest

theorem of_closing {closed : Bool} {u : Unit} (h : closing closed = .ok u) : closed = true := by
  cases closed with
  | true => rfl
  | false => cases h

theorem intact_of_ignored {j : Json} {u : Unit} (h : ignored j = .ok u) : j.intact = true := by
  by_contra hbroken
  simp [ignored, hbroken] at h

/-- A reader that has got to the end of its members has met only names that are text, and has left
of the rest in each step what it left of all. -/
theorem exists_of_foldMembers {Φ : α → List (String × Json) → Prop} {b : α}
    (hstep : ∀ {a key j ms a'}, f a key j = .ok a' → Φ a' ms → Φ a ((key, j) :: ms))
    (hend : Φ b []) {closed : Bool} {members : List (Option String × Json)} {a : α}
    (h : foldMembers f closed a members = .ok b) :
    closed = true ∧ ∃ ms, members = named ms ∧ Φ a ms := by
  induction members generalizing a with
  | nil =>
    obtain ⟨_, hclosed, ha⟩ := exists_of_bind_ok h
    obtain rfl := Except.ok.inj ha
    exact ⟨of_closing hclosed, [], rfl, hend⟩
  | cons m rest ih =>
    obtain ⟨name, j⟩ := m
    obtain ⟨key, hkey, hmember⟩ := exists_of_bind_ok h
    obtain ⟨a', hread, hrest⟩ := exists_of_bind_ok hmember
    obtain rfl : name = some key := by
      cases name with
      | none => cases hkey
      | some s => exact congrArg some (Except.ok.inj hkey)
    obtain ⟨hclosed, ms, rfl, hms⟩ := ih hrest
    exact ⟨hclosed, (key, j) :: ms, rfl, hstep hread hms⟩

/-- A reader of members that refuses the names of a field once it has read that field. -/
structure ReadsOnce (f : α → String → Json → Except Fault α) (names : List String)
    (has : α → Prop) : Prop where
  refused : ∀ {a key}, key ∈ names → has a → ∀ j, Gives (f a key j) fun _ => False
  marked : ∀ {key}, key ∈ names → ∀ a j, Gives (f a key j) has
  kept : ∀ {a}, has a → ∀ key j, Gives (f a key j) has

/-- What is read of a member that nothing can be read of is never the last word. -/
theorem gives_foldMembers_of_mem {members : List (Option String × Json)} {key : String} {j : Json}
    (h : (some key, j) ∈ members) {P : α → Prop} (hkept : ∀ {a}, P a → ∀ key j, Gives (f a key j) P)
    (hrefused : ∀ {a}, P a → Gives (f a key j) fun _ => False) (closed : Bool) {a : α} (ha : P a) :
    Gives (foldMembers f closed a members) fun _ => False := by
  induction members generalizing a with
  | nil => cases h
  | cons m rest ih =>
    obtain rfl | hrest := List.mem_cons.mp h
    · rw [foldMembers_cons]
      exact gives_bind (hrefused ha) fun _ hno => hno.elim
    · rw [foldMembers]
      exact gives_after fun key => gives_bind (hkept ha key m.2) fun _ hb => ih hrest hb

/-- Nothing is read of an object that gives a field twice. -/
theorem ReadsOnce.gives_foldMembers {names : List String} {has : α → Prop}
    (hf : ReadsOnce f names has) {key key' : String} (hkey : key ∈ names) (hkey' : key' ∈ names)
    {j j' : Json} {members : List (Option String × Json)}
    (h : [(some key, j), (some key', j')].Sublist members) (closed : Bool) (a : α) :
    Gives (foldMembers f closed a members) fun _ => False := by
  induction members generalizing a with
  | nil => cases h
  | cons m rest ih =>
    cases h with
    | cons _ h =>
      rw [foldMembers]
      exact gives_after fun key => gives_after fun b => ih h b
    | cons_cons _ h =>
      have hmem : (some key', j') ∈ rest := List.singleton_sublist.mp h
      rw [foldMembers_cons]
      exact gives_bind (hf.marked hkey a j) fun b hb =>
        gives_foldMembers_of_mem hmem hf.kept (fun hc => hf.refused hkey' hc j') closed hb

end Folds

section Positions

variable {β : Type} {read : Json → Except Fault β} {d v : β} {x : Option Json}

def Reads (read : Json → Except Fault β) (d : β) (x : Option Json) (v : β) : Prop :=
  x.elim (.ok d) read = .ok v

theorem Reads.pending (h : Reads read d x v) : Pending read none x.toList (x.map fun _ => v) := by
  cases x with
  | none => exact .rest none
  | some j => exact .one h

theorem Reads.getD_eq (h : Reads read d x v) : (x.map fun _ => v).getD d = v := by
  cases x with
  | none => exact Except.ok.inj h
  | some j => rfl

/-- Reading a value that may be left out, before what comes after it. -/
theorem match_bind {γ : Type} (x : Option Json) (k : β → Except Fault γ) :
    (match x with
      | none => pure d >>= k
      | some j => read j >>= k) = x.elim (.ok d) read >>= k := by
  cases x <;> rfl

theorem optionalString_eq_ok_iff {j : Json} {o : Option String} : optionalString j = .ok o ↔
    o = none ∧ j = .null ∨ ∃ s, o = some s ∧ j = .string (some s) := by
  constructor
  · intro h
    unfold optionalString at h
    split at h
    · cases h
      exact .inl ⟨rfl, rfl⟩
    · next t =>
      cases t with
      | none => cases h
      | some s =>
        cases h
        exact .inr ⟨s, rfl, rfl⟩
    · obtain ⟨x, -, hx⟩ := exists_of_bind_ok h
      cases hx
  · rintro (⟨rfl, rfl⟩ | ⟨s, rfl, rfl⟩) <;> rfl

theorem intact_of_optionalString {j : Json} {o : Option String} (h : optionalString j = .ok o) :
    j.intact = true := by
  obtain ⟨-, rfl⟩ | ⟨s, -, rfl⟩ := optionalString_eq_ok_iff.mp h <;> rfl

theorem reads_optionalString {o : Option String} (h : IsOptional x o) :
    Reads optionalString none x o := by
  cases h <;> rfl

theorem nextItem_drop (items : List Json) (k : ℕ) :
    nextItem true (items.drop k) = .ok (items[k]?, items.drop (k + 1)) := by
  by_cases hk : k < items.length
  · rw [List.drop_eq_getElem_cons hk, List.getElem?_eq_getElem hk]
    rfl
  · rw [List.drop_eq_nil_of_le (Nat.le_of_not_lt hk), List.getElem?_eq_none (Nat.le_of_not_lt hk),
      List.drop_eq_nil_of_le (Nat.le_succ_of_le (Nat.le_of_not_lt hk))]
    rfl

theorem noMoreItems_drop {items : List Json} {k : ℕ} (h : items.length ≤ k) :
    noMoreItems true (items.drop k) = .ok () := by
  rw [List.drop_eq_nil_of_le h]
  rfl

theorem intact_of_mem_named {ms : List (String × Json)} (h : intactMembers (named ms) = true) :
    ∀ m ∈ ms, m.2.intact = true := by
  induction ms with
  | nil => simp
  | cons m ms ih =>
    have hsplit : m.2.intact = true ∧ intactMembers (named ms) = true := by
      simpa [named, intactMembers] using h
    exact List.forall_mem_cons.mpr ⟨hsplit.1, ih hsplit.2⟩

theorem intactMembers_named {ms : List (String × Json)} (h : ∀ m ∈ ms, m.2.intact = true) :
    intactMembers (named ms) = true := by
  induction ms with
  | nil => rfl
  | cons m ms ih =>
    obtain ⟨hm, hms⟩ := List.forall_mem_cons.mp h
    have hcons : intactMembers (named (m :: ms)) = (m.2.intact && intactMembers (named ms)) := rfl
    rw [hcons, hm, ih hms, Bool.and_self]

theorem intact_of_mem_items {items : List Json} (h : intactItems items = true) :
    ∀ j ∈ items, j.intact = true := by
  induction items with
  | nil => simp
  | cons j items ih =>
    have hsplit : j.intact = true ∧ intactItems items = true := by simpa [intactItems] using h
    exact List.forall_mem_cons.mpr ⟨hsplit.1, ih hsplit.2⟩

end Positions

section Texts

variable {α : Type} {j : Json} {s : String}

/-- Reading a text is reading the tree that it spells. -/
theorem readText_eq (h : IsText j s.toList) (read : Json → Except Fault α) :
    readText read s = read j := by
  rw [readText, ofText_eq h]
  change (read j >>= fun a => closing true >>= fun _ => pure a) = read j
  cases read j <;> rfl

/-- A text that is given as its bytes in UTF-8 is the same text. -/
theorem ofBytes_encode (s : String) : ofBytes (Text.Utf8.encode s.toList) = ofText s := by
  rw [ofBytes, ofText, Text.Utf8.symbols_encode, Mode.tokensOf_map_some, tokens]

/-- What is read from a text is read from its tree, and nothing is left of the text. -/
theorem exists_of_readText {read : Json → Except Fault α} {a : α} (h : readText read s = .ok a) :
    ∃ j, ofText s = (j, true) ∧ read j = .ok a := by
  rw [readText] at h
  cases htree : ofText s with
  | mk j clean =>
    rw [htree] at h
    obtain ⟨b, hread, hend⟩ := exists_of_bind_ok h
    obtain ⟨_, hclean, hb⟩ := exists_of_bind_ok hend
    obtain rfl := Except.ok.inj hb
    obtain rfl : clean = true := of_closing hclean
    exact ⟨j, rfl, hread⟩

end Texts

end Testbed.Json
