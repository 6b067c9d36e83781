import Testbed.Proofs.Json.Value

/-!
# Canonical data

A datum is canonical if the names in its objects are sorted, its numbers are integers and its
brackets open within the depth that readers admit. A tree that has a value is read as a canonical
datum of this value, and there is only one. Its compact text spells a tree that is read as the
same datum again.
-/

namespace Testbed.Json

namespace Datum

/-- A datum that a reader at the given depth may have made of integers, texts and what holds
them. -/
inductive IsCanonical : ℕ → Datum → Prop where
  | null {n : ℕ} : IsCanonical n .null
  | bool {n : ℕ} (b : Bool) : IsCanonical n (.bool b)
  | integer {n : ℕ} {i : ℤ} (hi : Numeral.InRange i) : IsCanonical n (.number (.integer i))
  | string {n : ℕ} (s : String) : IsCanonical n (.string s)
  | array {n : ℕ} {items : List Datum} (hn : n ≤ depthLimit)
    (h : ∀ d ∈ items, d.IsCanonical (n + 1)) : IsCanonical n (.array items)
  | object {n : ℕ} {members : List (String × Datum)} (hn : n ≤ depthLimit)
    (hnames : (members.map Prod.fst).Pairwise (· < ·))
    (h : ∀ m ∈ members, m.2.IsCanonical (n + 1)) : IsCanonical n (.object members)

mutual

/-- The tree that the compact text of a datum spells. No fraction is canonical, so that any tree
will do for one. -/
def tree : Datum → Json
  | .null => .null
  | .bool b => .bool b
  | .number (.integer i) => .number (.ofInt i)
  | .number (.real ..) => .broken
  | .string s => .string (some s)
  | .array items => .array (treeItems items) true
  | .object members => .object (named (treeMembers members)) true

def treeItems : List Datum → List Json
  | [] => []
  | d :: r => d.tree :: treeItems r

def treeMembers : List (String × Datum) → List (String × Json)
  | [] => []
  | (key, d) :: r => (key, d.tree) :: treeMembers r

end

end Datum

section Names

variable {key : String} {d : Datum} {ms : List (String × Datum)}

theorem mem_names_insertMember {name : String} :
    name ∈ (insertMember key d ms).map Prod.fst ↔ name = key ∨ name ∈ ms.map Prod.fst := by
  fun_induction insertMember with
  | case1 => simp
  | case2 k w r _ => simp
  | case3 w r _ => simp
  | case4 k w r _ _ ih => rw [List.map_cons, List.mem_cons, ih, List.map_cons, List.mem_cons,
      or_left_comm]

theorem mem_insertMember {m : String × Datum} (h : m ∈ insertMember key d ms) :
    m = (key, d) ∨ m ∈ ms := by
  fun_induction insertMember with
  | case1 => exact .inl (List.mem_singleton.mp h)
  | case2 k w r _ => exact List.mem_cons.mp h
  | case3 w r _ => exact (List.mem_cons.mp h).imp_right (List.mem_cons_of_mem _)
  | case4 k w r _ _ ih =>
    obtain rfl | h := List.mem_cons.mp h
    · exact .inr List.mem_cons_self
    · exact (ih h).imp_right (List.mem_cons_of_mem _)

theorem pairwise_insertMember (h : (ms.map Prod.fst).Pairwise (· < ·)) :
    ((insertMember key d ms).map Prod.fst).Pairwise (· < ·) := by
  fun_induction insertMember with
  | case1 => exact List.pairwise_singleton _ _
  | case2 k w r hlt =>
    refine List.pairwise_cons.mpr ⟨fun name hname => ?_, h⟩
    obtain rfl | hname := List.mem_cons.mp hname
    · exact hlt
    · exact String.lt_trans hlt (List.rel_of_pairwise_cons h hname)
  | case3 w r _ => exact h
  | case4 k w r hlt hne ih =>
    obtain ⟨hk, hr⟩ := List.pairwise_cons.mp h
    refine List.pairwise_cons.mpr ⟨fun name hname => ?_, ih hr⟩
    obtain rfl | hname := mem_names_insertMember.mp hname
    · exact Std.lt_of_le_of_ne hlt (Ne.symm hne)
    · exact hk name hname

/-- A map has a value at just the names of its members. -/
theorem isSome_valueMembers? {ms : List (String × Json)} {f : String → Option Value}
    (h : valueMembers? (named ms) = some f) (name : String) :
    (f name).isSome = true ↔ name ∈ ms.map Prod.fst := by
  induction ms generalizing f with
  | nil =>
    obtain rfl := Option.some.inj h
    simp
  | cons m ms ih =>
    obtain ⟨k, v, g, hk, -, hg, rfl⟩ := valueMembers?_cons h
    obtain rfl := Option.some.inj hk
    rw [Option.isSome_or, Bool.or_eq_true, ih hg, List.map_cons, List.mem_cons, or_comm]
    by_cases hname : name = m.1 <;> simp [hname]

end Names

namespace Datum

section Trees

variable {n : ℕ} {d : Datum} {v : Value} {key : String} {f : String → Option Value}

theorem treeItems_eq_map (items : List Datum) : treeItems items = items.map tree := by
  induction items with
  | nil => rfl
  | cons d items ih => rw [treeItems, ih, List.map_cons]

theorem treeMembers_eq_map (members : List (String × Datum)) :
    treeMembers members = members.map fun m => (m.1, m.2.tree) := by
  induction members with
  | nil => rfl
  | cons m members ih => rw [treeMembers, ih, List.map_cons]

theorem names_treeMembers (members : List (String × Datum)) :
    (treeMembers members).map Prod.fst = members.map Prod.fst := by
  simp [treeMembers_eq_map, Function.comp_def]

/-- Members in the order of their names, with the map that they make. -/
structure MakeMap (n : ℕ) (f : String → Option Value) (members : List (String × Datum)) :
    Prop where
  names : (members.map Prod.fst).Pairwise (· < ·)
  isCanonical : ∀ m ∈ members, m.2.IsCanonical n
  value : valueMembers? (named (treeMembers members)) = some f

theorem valueMembers?_tree_cons {members : List (String × Datum)} (hd : d.tree.value? = some v)
    (h : valueMembers? (named (treeMembers members)) = some f) :
    valueMembers? (named (treeMembers ((key, d) :: members))) =
      some fun name => (f name).or (if name = key then some v else none) := by
  rw [treeMembers, named, List.map_cons, valueMembers?, ← named, hd, h]
  rfl

/-- A name before all others has no value. -/
theorem eq_none_of_forall_lt {members : List (String × Datum)}
    (hf : valueMembers? (named (treeMembers members)) = some f)
    (hkey : ∀ name ∈ members.map Prod.fst, key < name) : f key = none := by
  by_contra hsome
  have hmem := (isSome_valueMembers? hf key).mp (Option.isSome_iff_ne_none.mpr hsome)
  rw [names_treeMembers] at hmem
  exact String.lt_irrefl key (hkey key hmem)

theorem valueMembers?_front {members : List (String × Datum)} (hd : d.tree.value? = some v)
    (hf : valueMembers? (named (treeMembers members)) = some f)
    (hkey : ∀ name ∈ members.map Prod.fst, key < name) :
    valueMembers? (named (treeMembers ((key, d) :: members))) =
      some fun name => if name = key then some v else f name := by
  rw [valueMembers?_tree_cons hd hf]
  congr
  funext name
  by_cases hname : name = key
  · rw [hname, eq_none_of_forall_lt hf hkey, Option.none_or]
  · rw [if_neg hname, if_neg hname, Option.or_none]

theorem valueMembers?_insertMember {members : List (String × Datum)}
    (hnames : (members.map Prod.fst).Pairwise (· < ·))
    (hf : valueMembers? (named (treeMembers members)) = some f) (hd : d.tree.value? = some v) :
    valueMembers? (named (treeMembers (insertMember key d members))) =
      some fun name => if name = key then some v else f name := by
  fun_induction insertMember generalizing f with
  | case1 => exact valueMembers?_front hd hf (by simp)
  | case2 k w r hlt =>
    refine valueMembers?_front hd hf fun name hname => ?_
    obtain rfl | hname := List.mem_cons.mp hname
    · exact hlt
    · exact String.lt_trans hlt (List.rel_of_pairwise_cons hnames hname)
  | case3 w r _ =>
    obtain ⟨k, v', g, hk, hw, hg, rfl⟩ := valueMembers?_cons hf
    obtain rfl := Option.some.inj hk
    rw [valueMembers?_front hd hg fun name => List.rel_of_pairwise_cons hnames]
    congr
    funext name
    by_cases hname : name = key <;> simp [hname]
  | case4 k w r hlt hne ih =>
    obtain ⟨k', v', g, hk, hw, hg, rfl⟩ := valueMembers?_cons hf
    obtain rfl := Option.some.inj hk
    rw [valueMembers?_tree_cons hw (ih (List.pairwise_cons.mp hnames).2 hg)]
    congr
    funext name
    by_cases hname : name = key
    · rw [if_pos hname, if_pos hname, Option.some_or]
    · rw [if_neg hname, if_neg hname]

/-- A member that is read takes the place of one of its name. -/
theorem MakeMap.insert {members : List (String × Datum)} (h : MakeMap n f members) (key : String)
    (hd : d.IsCanonical n) (hv : d.tree.value? = some v) :
    MakeMap n (fun name => if name = key then some v else f name)
      (insertMember key d members) where
  names := pairwise_insertMember h.names
  isCanonical m hm := by
    obtain rfl | hm := mem_insertMember hm
    · exact hd
    · exact h.isCanonical m hm
  value := valueMembers?_insertMember h.names h.value hv

end Trees

end Datum

section Reading

open Datum

mutual

/-- A tree that has a value is read as a canonical datum of this value if the brackets are not too
deep. -/
theorem datum_of_value? : ∀ (j : Json) {v : Value}, j.value? = some v → ∀ {n : ℕ},
    n + j.height ≤ depthLimit + 1 →
    ∃ d, datum n j = .ok d ∧ d.IsCanonical n ∧ d.tree.value? = some v
  | .null, _, h, _, _ => ⟨.null, rfl, .null, h⟩
  | .bool b, _, h, _, _ => ⟨.bool b, rfl, .bool b, h⟩
  | .number m, _, h, _, _ => by
    obtain ⟨i, hi, rfl⟩ := Option.map_eq_some_iff.mp h
    have hrange := (Numeral.integer?_eq_some hi).2.2.1
    refine ⟨.number (.integer i), ?_, .integer hrange, ?_⟩
    · rw [datum, readNumber, Numeral.value?_of_integer? hi]
      rfl
    · rw [tree, value?, Numeral.integer?_ofInt hrange]
      rfl
  | .string text, _, h, _, _ => by
    obtain ⟨s, rfl, rfl⟩ := Option.map_eq_some_iff.mp h
    exact ⟨.string s, rfl, .string s, rfl⟩
  | .array items closed, v, h, n, hn => by
    rw [value?] at h
    split_ifs at h with hclosed
    obtain ⟨vs, hvs, rfl⟩ := Option.map_eq_some_iff.mp h
    rw [height] at hn
    obtain ⟨ds, hds, hcanonical, hvalue⟩ :=
      datumItems_of_valueItems? items hvs (n := n + 1) (by omega)
    have hn : n ≤ depthLimit := by omega
    refine ⟨.array ds, ?_, .array hn hcanonical, ?_⟩
    · rw [datum, entering, if_pos hn, hclosed]
      change (datumItems (n + 1) true items >>= _) = _
      rw [hds]
      rfl
    · rw [tree, value?, hvalue]
      rfl
  | .object members closed, v, h, n, hn => by
    rw [value?] at h
    split_ifs at h with hclosed
    obtain ⟨f, hf, rfl⟩ := Option.map_eq_some_iff.mp h
    rw [height] at hn
    have hempty : MakeMap (n + 1) (fun _ => none) [] := ⟨.nil, by simp, rfl⟩
    obtain ⟨ms, hms, hmembers⟩ :=
      datumMembers_of_valueMembers? members hf (n := n + 1) (by omega) hempty
    have hn : n ≤ depthLimit := by omega
    refine ⟨.object ms, ?_, .object hn hmembers.names hmembers.isCanonical, ?_⟩
    · rw [datum, entering, if_pos hn, hclosed]
      change (datumMembers (n + 1) true [] members >>= _) = _
      rw [hms]
      rfl
    · rw [tree, value?, hmembers.value]
      simp
  | .broken, _, h, _, _ => by cases h

theorem datumItems_of_valueItems? : ∀ (items : List Json) {vs : List Value},
    valueItems? items = some vs → ∀ {n : ℕ}, n + heightItems items ≤ depthLimit + 1 →
    ∃ ds, datumItems n true items = .ok ds ∧ (∀ d ∈ ds, d.IsCanonical n) ∧
      valueItems? (treeItems ds) = some vs
  | [], _, h, _, _ => ⟨[], rfl, by simp, h⟩
  | j :: r, _, h, n, hn => by
    obtain ⟨v, vs, hv, hvs, rfl⟩ := valueItems?_cons h
    rw [heightItems] at hn
    obtain ⟨d, hd, hcanonical, hvalue⟩ := datum_of_value? j hv (n := n) (by omega)
    obtain ⟨ds, hds, hall, hvalues⟩ := datumItems_of_valueItems? r hvs (n := n) (by omega)
    refine ⟨d :: ds, ?_, List.forall_mem_cons.mpr ⟨hcanonical, hall⟩, ?_⟩
    · rw [datumItems, hd, hds]
      rfl
    · rw [treeItems, valueItems?, hvalue, hvalues]
      rfl

theorem datumMembers_of_valueMembers? : ∀ (members : List (Option String × Json))
    {g : String → Option Value}, valueMembers? members = some g → ∀ {n : ℕ},
    n + heightMembers members ≤ depthLimit + 1 →
    ∀ {f : String → Option Value} {seen : List (String × Datum)}, MakeMap n f seen →
    ∃ ms, datumMembers n true seen members = .ok ms ∧
      MakeMap n (fun name => (g name).or (f name)) ms
  | [], g, h, n, _, f, seen, hseen => by
    obtain rfl := Option.some.inj h
    exact ⟨seen, rfl, hseen⟩
  | (key, j) :: r, g, h, n, hn, f, seen, hseen => by
    obtain ⟨k, v, g, rfl, hv, hg, rfl⟩ := valueMembers?_cons h
    rw [heightMembers] at hn
    obtain ⟨d, hd, hcanonical, hvalue⟩ := datum_of_value? j hv (n := n) (by omega)
    obtain ⟨ms, hms, hmembers⟩ := datumMembers_of_valueMembers? r hg (n := n) (by omega)
      (hseen.insert k hcanonical hvalue)
    refine ⟨ms, ?_, ?_⟩
    · rw [datumMembers, hd]
      exact hms
    · have hmap : (fun name => ((g name).or (if name = k then some v else none)).or (f name)) =
          fun name => (g name).or (if name = k then some v else f name) := by
        funext name
        by_cases hname : name = k <;> simp [hname]
      rwa [hmap]

end

theorem gives_entering {n : ℕ} : Gives (entering n) fun _ => n ≤ depthLimit := by
  unfold entering
  by_cases hn : n ≤ depthLimit
  · rw [if_pos hn]
    exact gives_pure hn
  · rw [if_neg hn]
    exact gives_error _

mutual

theorem gives_datum : ∀ (j : Json) {n : ℕ}, n ≤ depthLimit + 1 →
    Gives (datum n j) fun _ => n + j.height ≤ depthLimit + 1
  | .null, _, hn | .bool _, _, hn | .number _, _, hn | .string _, _, hn => fun _ _ => hn
  | .array items closed, n, hn => by
    refine gives_bind gives_entering fun _ hopen => ?_
    refine gives_bind (gives_datumItems items closed (n := n + 1) (by omega)) fun _ hitems => ?_
    exact gives_pure (by rw [height]; omega)
  | .object members closed, n, hn => by
    refine gives_bind gives_entering fun _ hopen => ?_
    refine gives_bind (gives_datumMembers members closed (n := n + 1) (by omega) []) fun _ h => ?_
    exact gives_pure (by rw [height]; omega)
  | .broken, _, _ => gives_error _

theorem gives_datumItems : ∀ (items : List Json) (closed : Bool) {n : ℕ}, n ≤ depthLimit + 1 →
    Gives (datumItems n closed items) fun _ => n + heightItems items ≤ depthLimit + 1
  | [], _, _, hn => fun _ _ => hn
  | j :: r, closed, n, hn => by
    refine gives_bind (gives_datum j hn) fun _ hj => ?_
    refine gives_bind (gives_datumItems r closed hn) fun _ hr => ?_
    exact gives_pure (by rw [heightItems]; omega)

theorem gives_datumMembers : ∀ (members : List (Option String × Json)) (closed : Bool) {n : ℕ},
    n ≤ depthLimit + 1 → ∀ seen : List (String × Datum),
    Gives (datumMembers n closed seen members) fun _ => n + heightMembers members ≤ depthLimit + 1
  | [], _, _, hn, _ => fun _ _ => hn
  | (key, j) :: r, closed, n, hn, seen => by
    refine gives_after fun k => gives_bind (gives_datum j hn) fun d hj => ?_
    refine (gives_datumMembers r closed hn _).mono fun _ hr => ?_
    rw [heightMembers]
    omega

end

end Reading

namespace Datum

section ReadingBack

variable {n : ℕ} {d : Datum}

theorem datumItems_treeItems {items : List Datum} (h : ∀ d ∈ items, datum n d.tree = .ok d) :
    datumItems n true (treeItems items) = .ok items := by
  induction items with
  | nil => rfl
  | cons d items ih =>
    obtain ⟨hd, hitems⟩ := List.forall_mem_cons.mp h
    rw [treeItems, datumItems, hd, ih hitems]
    rfl

/-- A member that comes after the others is put at the end. -/
theorem insertMember_eq_append {key : String} {seen : List (String × Datum)}
    (h : ∀ name ∈ seen.map Prod.fst, name < key) :
    insertMember key d seen = seen ++ [(key, d)] := by
  induction seen with
  | nil => rfl
  | cons m seen ih =>
    obtain ⟨hm, hseen⟩ := List.forall_mem_cons.mp h
    have hne : key ≠ m.1 := by
      rintro rfl
      exact String.lt_irrefl _ hm
    rw [insertMember, if_neg (String.lt_asymm hm), if_neg hne, ih hseen, List.cons_append]

theorem datumMembers_treeMembers {members : List (String × Datum)}
    (h : ∀ m ∈ members, datum n m.2.tree = .ok m.2) (seen : List (String × Datum))
    (hnames : ((seen ++ members).map Prod.fst).Pairwise (· < ·)) :
    datumMembers n true seen (named (treeMembers members)) = .ok (seen ++ members) := by
  induction members generalizing seen with
  | nil => rw [List.append_nil]; rfl
  | cons m members ih =>
    obtain ⟨hm, hmembers⟩ := List.forall_mem_cons.mp h
    have hlast : ∀ name ∈ seen.map Prod.fst, name < m.1 := by
      rw [List.map_append] at hnames
      exact fun name hname => (List.pairwise_append.mp hnames).2.2 name hname m.1 (by simp)
    rw [List.append_cons] at hnames ⊢
    rw [← ih hmembers _ hnames, ← insertMember_eq_append hlast, treeMembers, named, List.map_cons,
      datumMembers, hm]
    rfl

/-- The tree of a canonical datum is read as that datum. -/
theorem IsCanonical.datum_tree (h : d.IsCanonical n) : datum n d.tree = .ok d := by
  induction h with
  | null => rfl
  | bool b => rfl
  | integer hi =>
    rw [tree, datum, readNumber, Numeral.value?_of_integer? (Numeral.integer?_ofInt hi)]
    rfl
  | string s => rfl
  | array hn _ ih =>
    rw [tree, datum, entering, if_pos hn, datumItems_treeItems ih]
    rfl
  | object hn hnames _ ih =>
    rw [tree, datum, entering, if_pos hn, datumMembers_treeMembers ih [] hnames]
    rfl

end ReadingBack

section Uniqueness

variable {n m : ℕ} {d d' : Datum} {v : Value}

def IsDetermined (m : ℕ) (d : Datum) : Prop :=
  ∀ d' v, d'.IsCanonical m → d.tree.value? = some v → d'.tree.value? = some v → d' = d

theorem items_eq {items items' : List Datum} (h : ∀ d ∈ items, d.IsDetermined m)
    (h' : ∀ d' ∈ items', d'.IsCanonical m) {vs : List Value}
    (hvs : valueItems? (treeItems items) = some vs)
    (hvs' : valueItems? (treeItems items') = some vs) : items' = items := by
  induction items generalizing items' vs with
  | nil =>
    obtain rfl := Option.some.inj hvs
    cases items' with
    | nil => rfl
    | cons d' items' =>
      obtain ⟨v, ws, -, -, hcons⟩ := valueItems?_cons hvs'
      cases hcons
  | cons d items ih =>
    obtain ⟨hd, hitems⟩ := List.forall_mem_cons.mp h
    obtain ⟨v, ws, hv, hws, rfl⟩ := valueItems?_cons hvs
    cases items' with
    | nil => cases hvs'
    | cons d' items' =>
      obtain ⟨hd', hitems'⟩ := List.forall_mem_cons.mp h'
      obtain ⟨v', ws', hv', hws', heq⟩ := valueItems?_cons hvs'
      obtain ⟨rfl, rfl⟩ := List.cons.inj heq
      rw [hd d' v hd' hv hv', ih hitems hitems' hws hws']

/-- The map of the first member and the map of the rest, in which the first name has no value. -/
theorem MakeMap.uncons {key : String} {f : String → Option Value}
    {members : List (String × Datum)} (h : MakeMap m f ((key, d) :: members)) :
    ∃ v g, d.tree.value? = some v ∧ MakeMap m g members ∧ g key = none ∧
      f = fun name => (g name).or (if name = key then some v else none) := by
  obtain ⟨hnames, hcanonical, hvalue⟩ := h
  obtain ⟨hkey, hnames⟩ := List.pairwise_cons.mp hnames
  obtain ⟨k, v, g, hk, hv, hg, rfl⟩ := valueMembers?_cons hvalue
  obtain rfl := Option.some.inj hk
  exact ⟨v, g, hv, ⟨hnames, (List.forall_mem_cons.mp hcanonical).2, hg⟩,
    eq_none_of_forall_lt hg hkey, rfl⟩

theorem MakeMap.mem_names_iff {f : String → Option Value} {members : List (String × Datum)}
    (h : MakeMap m f members) (name : String) :
    name ∈ members.map Prod.fst ↔ (f name).isSome = true := by
  rw [isSome_valueMembers? h.value, names_treeMembers]

/-- The first of the names is the same if the map is. -/
theorem MakeMap.first_eq {f : String → Option Value} {a a' : String × Datum}
    {members members' : List (String × Datum)} (h : MakeMap n f (a :: members))
    (h' : MakeMap m f (a' :: members')) : a'.1 = a.1 := by
  have hmem : a'.1 ∈ (a :: members).map Prod.fst :=
    (h.mem_names_iff _).mpr ((h'.mem_names_iff _).mp (by simp))
  have hmem' : a.1 ∈ (a' :: members').map Prod.fst :=
    (h'.mem_names_iff _).mpr ((h.mem_names_iff _).mp (by simp))
  obtain heq | hlt := List.mem_cons.mp hmem
  · exact heq
  obtain heq | hlt' := List.mem_cons.mp hmem'
  · exact heq.symm
  · exact absurd (List.rel_of_pairwise_cons h.names hlt)
      (String.lt_asymm (List.rel_of_pairwise_cons h'.names hlt'))

theorem members_eq {members members' : List (String × Datum)}
    (hdetermined : ∀ a ∈ members, a.2.IsDetermined m) {f : String → Option Value}
    (h : MakeMap n f members) (h' : MakeMap m f members') : members' = members := by
  induction members generalizing members' f with
  | nil =>
    obtain rfl := Option.some.inj h.value
    cases members' with
    | nil => rfl
    | cons a' members' =>
      have hmem := (h'.mem_names_iff a'.1).mp (by simp)
      cases hmem
  | cons a members ih =>
    cases members' with
    | nil =>
      obtain rfl := Option.some.inj h'.value
      have hmem := (h.mem_names_iff a.1).mp (by simp)
      cases hmem
    | cons a' members' =>
      obtain ⟨key, d⟩ := a
      obtain ⟨key', d'⟩ := a'
      obtain rfl : key' = key := h.first_eq h'
      have hd' := h'.isCanonical _ List.mem_cons_self
      obtain ⟨v, g, hv, hg, hnone, rfl⟩ := h.uncons
      obtain ⟨v', g', hv', hg', hnone', heq⟩ := h'.uncons
      obtain ⟨hd, hmembers⟩ := List.forall_mem_cons.mp hdetermined
      have hfirst : v = v' := by
        have hvalue := congrFun heq key'
        simpa [hnone, hnone'] using hvalue
      have hrest : g' = g := by
        funext name
        by_cases hname : name = key'
        · rw [hname, hnone, hnone']
        · simpa [hname] using (congrFun heq name).symm
      subst hfirst hrest
      rw [hd d' v hd' hv hv', ih hmembers hg hg']

inductive Denotes (n : ℕ) : Value → Datum → Prop where
  | null : Denotes n .null .null
  | bool (b : Bool) : Denotes n (.bool b) (.bool b)
  | integer (i : ℤ) : Denotes n (.integer i) (.number (.integer i))
  | string (s : String) : Denotes n (.string s) (.string s)
  | array {vs : List Value} {items : List Datum} (h : ∀ d ∈ items, d.IsCanonical (n + 1))
    (hvs : valueItems? (treeItems items) = some vs) : Denotes n (.array vs) (.array items)
  | object {f : String → Option Value} {members : List (String × Datum)}
    (h : MakeMap (n + 1) f members) : Denotes n (.object f) (.object members)

theorem IsCanonical.denotes (h : d.IsCanonical n) (hv : d.tree.value? = some v) :
    Denotes n v d := by
  cases h with
  | null =>
    obtain rfl := Option.some.inj hv
    exact .null
  | bool b =>
    obtain rfl := Option.some.inj hv
    exact .bool b
  | integer hi =>
    rw [tree, value?, Numeral.integer?_ofInt hi] at hv
    obtain rfl := Option.some.inj hv
    exact .integer _
  | string s =>
    obtain rfl := Option.some.inj hv
    exact .string s
  | array hn h =>
    rw [tree, value?, if_pos rfl] at hv
    obtain ⟨vs, hvs, rfl⟩ := Option.map_eq_some_iff.mp hv
    exact .array h hvs
  | object hn hnames h =>
    rw [tree, value?, if_pos rfl] at hv
    obtain ⟨f, hf, rfl⟩ := Option.map_eq_some_iff.mp hv
    exact .object ⟨hnames, h, hf⟩

/-- A canonical datum is determined by its value. -/
theorem IsCanonical.isDetermined (h : d.IsCanonical n) : d.IsDetermined m := by
  induction h generalizing m with
  | null =>
    intro d' v h' hv hv'
    obtain rfl := Option.some.inj hv
    cases h'.denotes hv'
    rfl
  | bool b =>
    intro d' v h' hv hv'
    obtain rfl := Option.some.inj hv
    cases h'.denotes hv'
    rfl
  | integer hi =>
    intro d' v h' hv hv'
    cases (IsCanonical.integer (n := m) hi).denotes hv
    cases h'.denotes hv'
    rfl
  | string s =>
    intro d' v h' hv hv'
    obtain rfl := Option.some.inj hv
    cases h'.denotes hv'
    rfl
  | array hn h ih =>
    intro d' v h' hv hv'
    cases (IsCanonical.array hn h).denotes hv with
    | array _ hvs =>
      cases h'.denotes hv' with
      | array hall hvs' => rw [items_eq (fun d hd => ih d hd) hall hvs hvs']
  | object hn hnames h ih =>
    intro d' v h' hv hv'
    cases (IsCanonical.object hn hnames h).denotes hv with
    | object hmap =>
      cases h'.denotes hv' with
      | object hmap' => rw [members_eq (fun a ha => ih a ha) hmap hmap']

end Uniqueness

end Datum

end Testbed.Json
