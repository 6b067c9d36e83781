import Mathlib.Data.List.Infix
import Mathlib.Data.List.TakeWhile
import Testbed.Proofs.Endpoint.Target

/-!
# Filling in all parameters at once

Parameters are put into a template one after the other, each into what those before it have left.
A template is also read as a sequence of characters and placeholders, in which every placeholder is
filled in by itself. Both come to the same if no brace opens inside a placeholder and no name holds
a brace: a value that is put in holds no brace, so no later parameter finds a placeholder that was
not in the template.
-/

namespace Testbed

namespace Template

/-- A part of a template: a character that stands for itself, or a placeholder. -/
inductive Part where
  | text (c : Char)
  | hole (name : String)
  deriving Repr, DecidableEq

def Part.written : Part → List Char
  | .text c => [c]
  | .hole name => placeholder name

def Part.filled (params : List (String × String)) : Part → List Char
  | .text c => [c]
  | .hole name =>
    match params.find? (·.1 == name) with
    | some p => encodedValue p.2
    | none => placeholder name

def isBrace (c : Char) : Bool := c == '\x7b' || c == '\x7d'

def BraceFree (s : List Char) : Prop := ∀ c ∈ s, isBrace c = false

instance (s : List Char) : Decidable (BraceFree s) := List.decidableBAll (isBrace · = false) s

def nameAt? : List Char → Option (List Char)
  | '\x7b' :: r =>
    if (r.dropWhile (!isBrace ·)).head? = some '\x7d' then some (r.takeWhile (!isBrace ·)) else none
  | _ => none

/-- The parts of a template; `skip` characters still belong to the last placeholder. -/
def partsFrom : ℕ → List Char → List Part
  | _, [] => []
  | k + 1, _ :: r => partsFrom k r
  | 0, c :: r =>
    match nameAt? (c :: r) with
    | some name => .hole (String.ofList name) :: partsFrom (name.length + 1) r
    | none => .text c :: partsFrom 0 r

def parts (template : List Char) : List Part := partsFrom 0 template

/-- Every placeholder of a template filled in at once. -/
def substituted (params : List (String × String)) (template : List Char) : List Char :=
  (parts template).flatMap (Part.filled params)

section Names

variable {s n : List Char} {c : Char}

theorem braceFree_cons : BraceFree (c :: s) ↔ isBrace c = false ∧ BraceFree s :=
  List.forall_mem_cons

theorem BraceFree.not_mem_opening (h : BraceFree s) : '\x7b' ∉ s :=
  fun hmem => Bool.noConfusion (h _ hmem)

/-- A text holds no brace, or there is a first one. -/
theorem braceFree_or_split (s : List Char) :
    BraceFree s ∨ ∃ n c r, s = n ++ c :: r ∧ BraceFree n ∧ isBrace c = true := by
  induction s with
  | nil => exact .inl fun _ h => absurd h List.not_mem_nil
  | cons d s ih =>
    cases hd : isBrace d with
    | true => exact .inr ⟨[], d, s, rfl, fun _ h => absurd h List.not_mem_nil, hd⟩
    | false =>
      rcases ih with hs | ⟨n, c, r, rfl, hn, hc⟩
      · exact .inl (braceFree_cons.mpr ⟨hd, hs⟩)
      · exact .inr ⟨d :: n, c, r, rfl, braceFree_cons.mpr ⟨hd, hn⟩, hc⟩

theorem nameAt?_of_ne (hc : c ≠ '\x7b') (r : List Char) : nameAt? (c :: r) = none := by
  unfold nameAt?
  split
  · next h => exact absurd (List.cons.inj h).1 hc
  · rfl

/-- The first brace behind the one that opens a placeholder says whether it is one. -/
theorem nameAt?_brace (hn : BraceFree n) (hc : isBrace c = true) (r : List Char) :
    nameAt? ('\x7b' :: (n ++ c :: r)) = if c = '\x7d' then some n else none := by
  have hkept : ∀ d ∈ n, (!isBrace d) = true := fun d hd => by rw [hn d hd]; rfl
  rw [nameAt?, List.dropWhile_append_of_pos hkept, List.takeWhile_append_of_pos hkept]
  simp [hc]

theorem nameAt?_stray (hs : BraceFree s) : nameAt? ('\x7b' :: s) = none := by
  have hdrop : s.dropWhile (!isBrace ·) = [] := by
    rw [List.dropWhile_eq_nil_iff]
    exact fun c hc => by rw [hs c hc]; rfl
  rw [nameAt?, hdrop]
  rfl

theorem eq_of_nameAt? (h : nameAt? s = some n) :
    BraceFree n ∧ ∃ r, s = '\x7b' :: (n ++ '\x7d' :: r) := by
  cases s with
  | nil => cases h
  | cons d s =>
    obtain rfl : d = '\x7b' := by
      by_contra hd
      rw [nameAt?_of_ne hd] at h
      cases h
    rcases braceFree_or_split s with hs | ⟨m, c, r, rfl, hm, hc⟩
    · rw [nameAt?_stray hs] at h
      cases h
    · rw [nameAt?_brace hm hc, Option.ite_none_right_eq_some, Option.some.injEq] at h
      obtain ⟨rfl, rfl⟩ := h
      exact ⟨hm, r, rfl⟩

/-- A brace that opens behind a text ends no placeholder that begins in the text. -/
theorem nameAt?_append (hs : s ≠ []) (r : List Char) : nameAt? (s ++ '\x7b' :: r) = nameAt? s := by
  obtain ⟨d, s, rfl⟩ := List.exists_cons_of_ne_nil hs
  by_cases hd : d = '\x7b'
  · subst hd
    rcases braceFree_or_split s with hs | ⟨m, c, r', rfl, hm, hc⟩
    · rw [nameAt?_stray hs, List.cons_append, nameAt?_brace hs (by decide), if_neg (by decide)]
    · rw [List.cons_append, List.append_assoc, List.cons_append, nameAt?_brace hm hc,
        nameAt?_brace hm hc]
  · rw [List.cons_append, nameAt?_of_ne hd, nameAt?_of_ne hd]

end Names

section Parts

variable {s n : List Char} {c : Char}

theorem partsFrom_skip (s r : List Char) : partsFrom s.length (s ++ r) = parts r := by
  induction s with
  | nil => rfl
  | cons c s ih => rw [List.length_cons, List.cons_append, partsFrom, ih]

theorem parts_text (hc : c ≠ '\x7b') (r : List Char) : parts (c :: r) = .text c :: parts r := by
  rw [parts, partsFrom, nameAt?_of_ne hc]
  rfl

theorem parts_placeholder {name : String} (hname : BraceFree name.toList) (r : List Char) :
    parts (placeholder name ++ r) = .hole name :: parts r := by
  have hat : nameAt? ('\x7b' :: (name.toList ++ '\x7d' :: r)) = some name.toList := by
    rw [nameAt?_brace hname (by decide), if_pos rfl]
  have hskip := partsFrom_skip (name.toList ++ ['\x7d']) r
  rw [List.length_append, List.length_singleton, List.append_assoc, List.singleton_append] at hskip
  rw [placeholder, List.cons_append, List.append_assoc, List.singleton_append, parts, partsFrom,
    hat]
  simp only [hskip, String.ofList_toList]

theorem parts_copy (hs : '\x7b' ∉ s) (r : List Char) : parts (s ++ r) = s.map .text ++ parts r := by
  induction s with
  | nil => rfl
  | cons c s ih =>
    rw [List.mem_cons, not_or] at hs
    obtain ⟨hc, hs⟩ := hs
    rw [List.cons_append, parts_text (Ne.symm hc), ih hs, List.map_cons, List.cons_append]

theorem parts_stray (hs : BraceFree s) : parts ('\x7b' :: s) = ('\x7b' :: s).map .text := by
  have hcopy : parts s = s.map .text := by
    simpa [parts, partsFrom] using parts_copy hs.not_mem_opening []
  rw [parts, partsFrom, nameAt?_stray hs, List.map_cons, ← hcopy]
  rfl

/-- Reading a template as parts leaves nothing out. -/
theorem flatMap_written_parts (template : List Char) :
    (parts template).flatMap Part.written = template := by
  have hfrom (k : ℕ) (s : List Char) : (partsFrom k s).flatMap Part.written = s.drop k := by
    induction s generalizing k with
    | nil => simp [partsFrom]
    | cons c s ih =>
      cases k with
      | succ k => exact ih k
      | zero =>
        rw [partsFrom]
        cases hname : nameAt? (c :: s) with
        | none => simp [Part.written, ih]
        | some n =>
          obtain ⟨-, r, hr⟩ := eq_of_nameAt? hname
          obtain ⟨rfl, rfl⟩ := List.cons.inj hr
          simp [Part.written, placeholder, ih]
  exact hfrom 0 template

/-- Every placeholder that occurs in a template is one of its parts. -/
theorem parts_append {name : String} (hname : BraceFree name.toList) (s r : List Char) :
    parts (s ++ placeholder name ++ r) = parts s ++ .hole name :: parts r := by
  have hfrom (k : ℕ) (s : List Char) (hk : k ≤ s.length) :
      partsFrom k (s ++ (placeholder name ++ r)) =
        partsFrom k s ++ parts (placeholder name ++ r) := by
    induction s generalizing k with
    | nil =>
      obtain rfl : k = 0 := Nat.le_zero.mp hk
      rfl
    | cons c s ih =>
      cases k with
      | succ k => exact ih k (Nat.le_of_succ_le_succ hk)
      | zero =>
        have hsame : nameAt? (c :: s ++ (placeholder name ++ r)) = nameAt? (c :: s) :=
          nameAt?_append (List.cons_ne_nil c s) _
        rw [List.cons_append] at hsame ⊢
        rw [partsFrom, partsFrom, hsame]
        cases hname' : nameAt? (c :: s) with
        | none => simp only [ih 0 (Nat.zero_le _), List.cons_append]
        | some n =>
          obtain ⟨-, r', hr'⟩ := eq_of_nameAt? hname'
          have hlen : n.length + 1 ≤ s.length := by
            rw [(List.cons.inj hr').2, List.length_append, List.length_cons]
            omega
          simp only [ih _ hlen, List.cons_append]
  rw [List.append_assoc, parts, hfrom 0 s (Nat.zero_le _), parts_placeholder hname]
  rfl

end Parts

section Flat

/-- Text in which no brace opens inside a placeholder: characters, placeholders, and at its end
perhaps a brace that stays open. -/
inductive Flat : List Char → Prop where
  | nil : Flat []
  | text {c : Char} {r : List Char} (hc : c ≠ '\x7b') (hr : Flat r) : Flat (c :: r)
  | hole {name : String} {r : List Char} (hname : BraceFree name.toList) (hr : Flat r) :
    Flat (placeholder name ++ r)
  | stray {s : List Char} (hs : BraceFree s) : Flat ('\x7b' :: s)

/-- No brace that opens is followed by another one before a brace closes. -/
def Unnested (s : List Char) : Prop :=
  ∀ t ∈ s.tails, t.head? = some '\x7b' → (t.tail.dropWhile (!isBrace ·)).head? ≠ some '\x7b'

instance (s : List Char) : Decidable (Unnested s) := inferInstanceAs (Decidable (∀ t ∈ _, _))

theorem Unnested.of_suffix {s t : List Char} (h : Unnested s) (ht : t <:+ s) : Unnested t := by
  intro u hu
  exact h u ((List.mem_tails _ _).mpr (((List.mem_tails _ _).mp hu).trans ht))

/-- Behind a brace that opens, the first brace closes. -/
theorem Unnested.eq_of_brace {n r : List Char} {c : Char} (h : Unnested ('\x7b' :: (n ++ c :: r)))
    (hn : BraceFree n) (hc : isBrace c = true) : c = '\x7d' := by
  have hkept : ∀ d ∈ n, (!isBrace d) = true := fun d hd => by rw [hn d hd]; rfl
  have hhere := h _ ((List.mem_tails _ _).mpr (List.suffix_refl _)) rfl
  rw [List.tail_cons, List.dropWhile_append_of_pos hkept] at hhere
  simp only [isBrace, Bool.or_eq_true, beq_iff_eq] at hc
  rcases hc with rfl | rfl
  · exact absurd rfl hhere
  · rfl

theorem flat_of_unnested {s : List Char} (h : Unnested s) : Flat s := by
  induction hlen : s.length using Nat.strong_induction_on generalizing s with
  | _ len ih =>
    subst hlen
    cases s with
    | nil => exact .nil
    | cons c s =>
      by_cases hc : c = '\x7b'
      · subst hc
        rcases braceFree_or_split s with hs | ⟨n, d, r, rfl, hn, hd⟩
        · exact .stray hs
        · obtain rfl := h.eq_of_brace hn hd
          have hr : Flat r := by
            refine ih r.length (by simp; omega) (h.of_suffix ?_) rfl
            exact ⟨'\x7b' :: (n ++ ['\x7d']), by simp⟩
          have hname : BraceFree (String.ofList n).toList := by rwa [String.toList_ofList]
          have hhole := Flat.hole hname hr
          rwa [placeholder, String.toList_ofList, List.cons_append, List.append_assoc] at hhole
      · exact .text hc (ih s.length (Nat.lt_succ_self _) (h.of_suffix (List.suffix_cons c s)) rfl)

theorem Flat.append_text {s r : List Char} (hs : '\x7b' ∉ s) (hr : Flat r) : Flat (s ++ r) := by
  induction s with
  | nil => exact hr
  | cons c s ih =>
    rw [List.mem_cons, not_or] at hs
    obtain ⟨hc, hs⟩ := hs
    exact .text (Ne.symm hc) (ih hs)

end Flat

section Filling

variable {p : String × String} {params : List (String × String)} {s t : List Char}

theorem fill_copy (hs : '\x7b' ∉ s) (r : List Char) (p : String × String) :
    fill (s ++ r) p = s ++ fill r p :=
  replaceFrom_copy hs r

theorem fill_same (name v : String) (r : List Char) :
    fill (placeholder name ++ r) (name, v) = encodedValue v ++ fill r (name, v) := by
  have h := fill_placeholder (s := []) List.not_mem_nil name v r
  rwa [List.nil_append] at h

/-- A brace that opens is kept if it does not begin the placeholder of the parameter. -/
theorem fill_brace (hp : BraceFree p.1.toList) (h : nameAt? ('\x7b' :: s) ≠ some p.1.toList) :
    fill ('\x7b' :: s) p = '\x7b' :: fill s p := by
  have hprefix : (placeholder p.1).isPrefixOf ('\x7b' :: s) = false := by
    rw [Bool.eq_false_iff, Ne, List.isPrefixOf_iff_prefix]
    rintro ⟨r, hr⟩
    refine h ?_
    rw [← hr, placeholder, List.cons_append, List.append_assoc, List.singleton_append,
      nameAt?_brace hp (by decide), if_pos rfl]
  rw [fill, Template.replaceFrom, hprefix, if_neg Bool.false_ne_true]
  rfl

theorem fill_other {name : String} (hname : BraceFree name.toList) (hp : BraceFree p.1.toList)
    (hne : p.1 ≠ name) (r : List Char) :
    fill (placeholder name ++ r) p = placeholder name ++ fill r p := by
  have hat : nameAt? ('\x7b' :: (name.toList ++ ['\x7d'] ++ r)) ≠ some p.1.toList := by
    rw [List.append_assoc, List.singleton_append, nameAt?_brace hname (by decide), if_pos rfl]
    exact fun h => hne (String.toList_inj.mp (Option.some.inj h)).symm
  have hcopy : '\x7b' ∉ name.toList ++ ['\x7d'] := by simpa using hname.not_mem_opening
  rw [placeholder, List.cons_append, fill_brace hp hat, fill_copy hcopy, List.cons_append]

theorem fill_stray (hs : BraceFree s) (hp : BraceFree p.1.toList) :
    fill ('\x7b' :: s) p = '\x7b' :: s := by
  have hcopy := fill_copy hs.not_mem_opening [] p
  rw [List.append_nil] at hcopy
  rw [fill_brace hp (by simp [nameAt?_stray hs]), hcopy]
  simp [fill, replaceFrom]

theorem opening_not_mem_encodedValue (v : String) : '\x7b' ∉ encodedValue v :=
  fun h => (isData_of_mem_encodedValue h).ne.2.2.2.2 rfl

theorem Flat.fill (ht : Flat t) (hp : BraceFree p.1.toList) : Flat (fill t p) := by
  obtain ⟨param, v⟩ := p
  induction ht with
  | nil => exact .nil
  | @text c r hc hr ih =>
    have hcopy := fill_copy (s := [c]) (by simpa using Ne.symm hc) r (param, v)
    rw [List.singleton_append, List.singleton_append] at hcopy
    rw [hcopy]
    exact .text hc ih
  | @hole name r hname hr ih =>
    by_cases hsame : param = name
    · subst hsame
      rw [fill_same]
      exact ih.append_text (opening_not_mem_encodedValue v)
    · rw [fill_other hname hp hsame]
      exact .hole hname ih
  | stray hs =>
    rw [fill_stray hs hp]
    exact .stray hs

theorem filled_cons (name : String) : Part.filled (p :: params) (.hole name) =
    if p.1 = name then encodedValue p.2 else Part.filled params (.hole name) := by
  simp only [Part.filled, List.find?_cons]
  cases hsame : p.1 == name with
  | true => simp [beq_iff_eq.mp hsame]
  | false => simp [beq_eq_false_iff_ne.mp hsame]

theorem flatMap_filled_text (params : List (String × String)) (s : List Char) :
    (s.map Part.text).flatMap (Part.filled params) = s := by
  simp [List.flatMap_map, Part.filled]

/-- The first parameter can be put in before the others. -/
theorem substituted_cons (ht : Flat t) (hp : BraceFree p.1.toList) :
    substituted (p :: params) t = substituted params (Template.fill t p) := by
  obtain ⟨param, v⟩ := p
  unfold substituted
  induction ht with
  | nil => rfl
  | @text c r hc hr ih =>
    have hcopy := fill_copy (s := [c]) (by simpa using Ne.symm hc) r (param, v)
    rw [List.singleton_append, List.singleton_append] at hcopy
    rw [hcopy, parts_text hc, parts_text hc, List.flatMap_cons, List.flatMap_cons, ih]
    rfl
  | @hole name r hname hr ih =>
    rw [parts_placeholder hname, List.flatMap_cons, filled_cons]
    by_cases hsame : param = name
    · subst hsame
      rw [if_pos rfl, fill_same, parts_copy (opening_not_mem_encodedValue v), List.flatMap_append,
        flatMap_filled_text, ih]
    · rw [if_neg hsame, fill_other hname hp hsame, parts_placeholder hname, List.flatMap_cons, ih]
  | stray hs =>
    rw [fill_stray hs hp, parts_stray hs, flatMap_filled_text, flatMap_filled_text]

theorem substituted_nil (t : List Char) : substituted [] t = t := by
  have hfilled : Part.filled [] = Part.written := by
    funext part
    cases part <;> rfl
  rw [substituted, hfilled, flatMap_written_parts]

/-- Putting in one parameter after the other fills in every placeholder at once. -/
theorem foldl_fill (hparams : ∀ p ∈ params, BraceFree p.1.toList) (ht : Flat t) :
    params.foldl Template.fill t = substituted params t := by
  induction params generalizing t with
  | nil => exact (substituted_nil t).symm
  | cons p params ih =>
    obtain ⟨hp, hparams⟩ := List.forall_mem_cons.mp hparams
    rw [List.foldl_cons, substituted_cons ht hp, ih hparams (ht.fill hp)]

end Filling

section Parameters

variable {params params' : List (String × String)}

theorem find?_perm (h : params.Perm params') (hdistinct : (params.map Prod.fst).Nodup)
    (name : String) : params.find? (·.1 == name) = params'.find? (·.1 == name) := by
  induction h with
  | nil => rfl
  | cons p _ ih =>
    rw [List.map_cons, List.nodup_cons] at hdistinct
    rw [List.find?_cons, List.find?_cons, ih hdistinct.2]
  | swap p q ps =>
    have hne : q.1 ≠ p.1 := by
      rw [List.map_cons, List.nodup_cons] at hdistinct
      exact fun e => hdistinct.1 (e ▸ List.mem_cons_self)
    by_cases hp : p.1 = name
    · have hq : q.1 ≠ name := fun e => hne (e.trans hp.symm)
      simp [hp, hq]
    · simp [List.find?_cons, hp]
  | trans h _ ih ih' =>
    exact (ih hdistinct).trans (ih' ((h.map Prod.fst).nodup_iff.mp hdistinct))

theorem find?_repeated {p q : String × String} (h : p.1 = q.1)
    (before between after : List (String × String)) (name : String) :
    (before ++ p :: (between ++ q :: after)).find? (·.1 == name) =
      (before ++ p :: (between ++ after)).find? (·.1 == name) := by
  rw [List.find?_append, List.find?_append, List.find?_cons, List.find?_cons]
  cases hp : p.1 == name with
  | true => rfl
  | false => simp [List.find?_append, ← h, hp]

theorem substituted_congr
    (h : ∀ name : String, params.find? (·.1 == name) = params'.find? (·.1 == name)) :
    substituted params = substituted params' := by
  have hfilled : Part.filled params = Part.filled params' := by
    funext part
    cases part with
    | text c => rfl
    | hole name => simp only [Part.filled, h]
  funext t
  rw [substituted, substituted, hfilled]

end Parameters

end Template

open Template (BraceFree Part Unnested flat_of_unnested parts placeholder substituted)

def Resolver.templateOf (r : Resolver) (key : String) : List Char :=
  ((r.table.template? key).getD key).toList

/-- A target is its template with every placeholder filled in at once by the first parameter of its
name. The parts of the template are all of it, and every placeholder that occurs in it is one of
them. So the order of parameters does not matter if their names differ, and a parameter whose name
has come before does nothing. -/
theorem Resolver.resolve_fills_at_once (r : Resolver) (key : String)
    {params : List (String × String)} (hparams : ∀ p ∈ params, BraceFree p.1.toList)
    (htemplate : Unnested (r.templateOf key)) :
    (r.resolve key params).toList = (parts (r.templateOf key)).flatMap (Part.filled params) ∧
    (parts (r.templateOf key)).flatMap Part.written = r.templateOf key ∧
    (∀ before name after, BraceFree name.toList →
      r.templateOf key = before ++ placeholder name ++ after →
      parts (r.templateOf key) = parts before ++ .hole name :: parts after) ∧
    (∀ params', params'.Perm params → (params.map Prod.fst).Nodup →
      r.resolve key params' = r.resolve key params) ∧
    ∀ before p between q after, params = before ++ p :: (between ++ q :: after) → p.1 = q.1 →
      r.resolve key (before ++ p :: (between ++ after)) = r.resolve key params := by
  have hresolve (ps : List (String × String)) (hps : ∀ p ∈ ps, BraceFree p.1.toList) :
      r.resolve key ps = String.ofList (substituted ps (r.templateOf key)) :=
    congrArg String.ofList (Template.foldl_fill hps (flat_of_unnested htemplate))
  refine ⟨?_, Template.flatMap_written_parts _, ?_, ?_, ?_⟩
  · rw [hresolve params hparams, String.toList_ofList, substituted]
  · intro before name after hname h
    rw [h, Template.parts_append hname]
  · intro params' hperm hdistinct
    have hparams' : ∀ p ∈ params', BraceFree p.1.toList := fun p hp => hparams p (hperm.subset hp)
    rw [hresolve params hparams, hresolve params' hparams',
      Template.substituted_congr (Template.find?_perm hperm.symm hdistinct)]
  · rintro before p between q after rfl h
    have hfewer : ∀ x ∈ before ++ p :: (between ++ after), BraceFree x.1.toList := by
      refine fun x hx => hparams x ?_
      simp only [List.mem_append, List.mem_cons] at hx ⊢
      tauto
    rw [hresolve _ hparams, hresolve _ hfewer,
      Template.substituted_congr (Template.find?_repeated h before between after)]

/-- A value that looks like a placeholder is not filled in, and a brace that stays open is kept. -/
theorem Resolver.resolve_fills_at_once_spelledOut :
    let base : Address := ⟨"http", "", "", some (.name "h"), none, .segments [""], none, none⟩
    let r : Resolver := ⟨.default, base⟩
    let params := [("x", "\x7by\x7d"), ("y", "1"), ("x", "2")]
    (∀ p ∈ params, BraceFree p.1.toList) ∧
      Unnested (r.templateOf "a\x7d\x7bx\x7d/\x7by\x7d-\x7bz") ∧
      r.resolve "a\x7d\x7bx\x7d/\x7by\x7d-\x7bz" params = "a\x7d%7By%7D/1-\x7bz" := by
  intro base r params
  have hparams : ∀ p ∈ params, BraceFree p.1.toList := by decide
  have htemplate : Unnested (r.templateOf "a\x7d\x7bx\x7d/\x7by\x7d-\x7bz") := by decide +kernel
  obtain ⟨hfilled, -⟩ :=
    r.resolve_fills_at_once "a\x7d\x7bx\x7d/\x7by\x7d-\x7bz" hparams htemplate
  refine ⟨hparams, htemplate, String.toList_injective (hfilled.trans ?_)⟩
  decide +kernel

end Testbed
