import Mathlib.Data.List.Basic
import Mathlib.Tactic.SplitIfs
import Testbed.Toml.Basic

/-!
# Changes of a document

Whatever a statement does to a table, it does at one key: it reads what stands there, and puts
something else in its place. Other keys keep what they have.
-/

namespace Testbed.Toml

section Lookups

variable {α : Type} (k : String) (es : List (String × α))

@[simp] theorem find?_nil : find? k ([] : List (String × α)) = none := rfl

theorem find?_cons (e : String × α) :
    find? k (e :: es) = if e.1 = k then some e.2 else find? k es := by
  by_cases h : e.1 = k <;> simp [find?, h]

theorem find?_append (es' : List (String × α)) :
    find? k (es ++ es') = (find? k es).or (find? k es') := by
  simp only [find?, List.find?_append]
  cases es.find? (·.1 == k) <;> rfl

theorem any_key_iff : es.any (·.1 == k) = (find? k es).isSome := by
  induction es with
  | nil => rfl
  | cons e es ih =>
    rw [List.any_cons, ih, find?_cons]
    by_cases h : e.1 = k <;> simp [h]

end Lookups

theorem find?_replace (k j : String) (i : Item) (es : Entries) :
    find? k (es.map fun e => if e.1 == j then (j, i) else e) =
      if j = k then (find? k es).map fun _ => i else find? k es := by
  induction es with
  | nil => simp
  | cons e es ih =>
    rw [List.map_cons, find?_cons, find?_cons, ih]
    by_cases hj : e.1 = j
    · by_cases hk : j = k <;> simp [hj, hk]
    · by_cases hk : e.1 = k
      · have hjk : j ≠ k := fun h => hj (hk.trans h.symm)
        simp [hk, hjk, Ne.symm hjk]
      · simp [hj, hk]

theorem find?_put (k j : String) (i : Item) (es : Entries) :
    find? k (put j i es) = if j = k then some i else find? k es := by
  rw [put, any_key_iff]
  cases hj : find? j es with
  | none =>
    rw [Option.isSome_none, if_neg Bool.false_ne_true, find?_append, find?_cons, find?_nil]
    split_ifs with h
    · rw [← h, hj]
      rfl
    · exact Option.or_none
  | some i' =>
    rw [Option.isSome_some, if_pos rfl, find?_replace]
    split_ifs with h
    · rw [← h, hj]
      rfl
    · rfl

def changeAt (k : String) (c : Option Item → Option Item) (es : Entries) : Option Entries :=
  (c (find? k es)).map (put k · es)

section Changes

def opened : Option Item → Option Item
  | none => some (.table false false [])
  | some (.table true false inner) => some (.table false false inner)
  | some _ => none

def openedArray : Option Item → Option Item
  | none => some (.tables [[]])
  | some (.tables ts) => some (.tables (ts ++ [[]]))
  | some _ => none

def entered (dotted : Bool) (g : Bool → Entries → Option Entries) : Option Item → Option Item
  | none => (g dotted []).map (.table true dotted)
  | some (.value _) => none
  | some (.tables ts) => do
    let last ← ts.getLast?
    (g false last).map fun t => .tables (ts.dropLast ++ [t])
  | some (.table isImplicit isDotted inner) =>
    if dotted && !isImplicit then none else (g isDotted inner).map (.table isImplicit isDotted)

theorem openTable_eq (k : String) : openTable k = changeAt k opened := by
  funext es
  rw [openTable, changeAt]
  cases find? k es with
  | none => rfl
  | some i =>
    cases i with
    | table isImplicit isDotted inner => cases isImplicit <;> cases isDotted <;> rfl
    | _ => rfl

theorem openArrayTable_eq (k : String) : openArrayTable k = changeAt k openedArray := by
  funext es
  rw [openArrayTable, changeAt]
  cases find? k es with
  | none => rfl
  | some i => cases i <;> rfl

theorem define_eq (simple : Bool) (k : String) (i : Item) (isDotted : Bool) :
    define simple k i isDotted =
      changeAt k fun o => if isDotted == simple || o.isSome then none else some i := by
  funext es
  rw [define, changeAt]
  split_ifs <;> rfl

theorem descend_cons_eq (dotted : Bool) (f : Bool → Entries → Option Entries) (k : String)
    (r : Key) (isDotted : Bool) :
    descend dotted f (k :: r) isDotted = changeAt k (entered dotted (descend dotted f r)) := by
  funext es
  rw [descend, changeAt]
  cases find? k es with
  | none => simp only [entered]; cases descend dotted f r dotted [] <;> rfl
  | some i =>
    cases i with
    | value => rfl
    | tables ts =>
      simp only [entered]
      cases ts.getLast? with
      | none => rfl
      | some last => cases h : descend dotted f r false last <;> simp [h]
    | table isImplicit isDotted inner =>
      simp only [entered]
      split_ifs
      · rfl
      · cases descend dotted f r isDotted inner <;> rfl

theorem assign_singleton_eq (k : String) (i : Item) :
    assign [k] i = changeAt k fun o => if o.isSome then none else some i := define_eq true k i false

theorem assign_cons_eq (k : String) {r : Key} (hr : r ≠ []) (i : Item) :
    assign (k :: r) i =
      changeAt k (entered true (descend true (define false (r.getLast hr) i) r.dropLast)) := by
  have hsplit : splitLast? (k :: r) = some (k :: r.dropLast, r.getLast hr) := by
    obtain ⟨k', r, rfl⟩ := List.exists_cons_of_ne_nil hr
    simp [splitLast?, List.getLast?_eq_some_getLast]
  rw [← descend_cons_eq true _ k _ false]
  funext es
  rw [assign, hsplit]
  rfl

theorem exists_assign_eq (k : String) (r : Key) (i : Item) :
    ∃ c, assign (k :: r) i = changeAt k c := by
  cases r with
  | nil => exact ⟨_, assign_singleton_eq k i⟩
  | cons l r => exact ⟨_, assign_cons_eq k (List.cons_ne_nil l r) i⟩

end Changes

section Values

theorem find?_entriesToToml (k : String) (es : Entries) :
    find? k (entriesToToml es) = (find? k es).map Item.toToml := by
  induction es with
  | nil => rfl
  | cons e es ih =>
    obtain ⟨l, i⟩ := e
    rw [entriesToToml, find?_cons, find?_cons, ih]
    split_ifs <;> rfl

theorem entriesToToml_values (pairs : List (String × Toml)) :
    entriesToToml (pairs.map fun p => (p.1, .value p.2)) = pairs := by
  induction pairs with
  | nil => rfl
  | cons p pairs ih => rw [List.map_cons, entriesToToml, ih, Item.toToml]

end Values

end Testbed.Toml
