import Testbed.Proofs.Json.Record

/-!
# The places of values

A value stands at a place of a text if any other value can be written there instead of it: the whole
is then a text of the tree with the other value. Every member of an object and every item of an
array has a place in the text, and a place in the text of a value is one in the whole.
-/

namespace Testbed.Json

/-- Whatever value is written between the two texts, the whole spells the tree that holds it. -/
def IsPlace (f : Json → Json) (before after : List Char) : Prop :=
  ∀ j t, IsText j t → IsText (f j) (before ++ (t ++ after))

def HasPlace (f : Json → Json) (j : Json) (s : List Char) : Prop :=
  ∃ before t after, s = before ++ (t ++ after) ∧ IsText j t ∧ IsPlace f before after

inductive IsLiteral : Json → List Char → Prop where
  | true : IsLiteral (.bool true) ['t', 'r', 'u', 'e']
  | false : IsLiteral (.bool false) ['f', 'a', 'l', 's', 'e']
  | number {n : Numeral} {t : List Char} (h : n.IsText t) : IsLiteral (.number n) t

inductive IsBare : Json → List Char → Prop where
  | null : IsBare .null ['n', 'u', 'l', 'l']
  | literal {j : Json} {t : List Char} (h : IsLiteral j t) : IsBare j t
  | string {text : Option String} {t : List Char} (h : IsString text t) : IsBare (.string text) t
  | emptyArray {g : List Char} (hg : IsGap g) : IsBare (.array [] true) ('[' :: (g ++ [']']))
  | array {items : List Json} {t : List Char} (h : AreItems items t) :
    IsBare (.array items true) ('[' :: (t ++ [']']))
  | emptyObject {g : List Char} (hg : IsGap g) :
    IsBare (.object [] true) ('\x7b' :: (g ++ ['\x7d']))
  | object {members : List (Option String × Json)} {t : List Char} (h : AreMembers members t) :
    IsBare (.object members true) ('\x7b' :: (t ++ ['\x7d']))

variable {f g : Json → Json} {before before' after after' t s : List Char} {j : Json}

def IsAround (j : Json) (s : List Char) : Prop :=
  ∃ gap t gap', IsGap gap ∧ IsBare j t ∧ IsGap gap' ∧ s = gap ++ (t ++ gap')

theorem IsBare.isAround (h : IsBare j t) : IsAround j t :=
  ⟨[], t, [], isGap_nil, h, isGap_nil, (List.append_nil t).symm⟩

/-- Space may be put around a text again and again, and is still space around a bare text. -/
theorem isAround_of_isText : ∀ {j : Json} {s : List Char}, IsText j s → IsAround j s
  | _, _, .spaced hg h hg' => by
    obtain ⟨gap, t, gap', hgap, ht, hgap', rfl⟩ := isAround_of_isText h
    exact ⟨_ ++ gap, t, gap' ++ _, List.forall_mem_append.mpr ⟨hg, hgap⟩, ht,
      List.forall_mem_append.mpr ⟨hgap', hg'⟩, by simp only [List.append_assoc]⟩
  | _, _, .null => IsBare.null.isAround
  | _, _, .true => (IsBare.literal .true).isAround
  | _, _, .false => (IsBare.literal .false).isAround
  | _, _, .number h => (IsBare.literal (.number h)).isAround
  | _, _, .string h => (IsBare.string h).isAround
  | _, _, .emptyArray hg => (IsBare.emptyArray hg).isAround
  | _, _, .array h => (IsBare.array h).isAround
  | _, _, .emptyObject hg => (IsBare.emptyObject hg).isAround
  | _, _, .object h => (IsBare.object h).isAround

theorem IsLiteral.isText (h : IsLiteral j t) : IsText j t := by
  cases h with
  | true => exact .true
  | false => exact .false
  | number h => exact .number h

theorem IsPlace.comp (hf : IsPlace f before after) (hg : IsPlace g before' after') :
    IsPlace (f ∘ g) (before ++ before') (after' ++ after) := by
  intro j t h
  have hwhole := hf (g j) _ (hg j t h)
  rw [Function.comp_apply]
  simpa only [List.append_assoc] using hwhole

theorem HasPlace.comp (hf : HasPlace f (g j) s) (hg : ∀ t, IsText (g j) t → HasPlace g j t) :
    HasPlace (f ∘ g) j s := by
  obtain ⟨before, t, after, rfl, ht, hplace⟩ := hf
  obtain ⟨before', u, after', rfl, hu, hplace'⟩ := hg t ht
  exact ⟨before ++ before', u, after' ++ after, by simp only [List.append_assoc], hu,
    hplace.comp hplace'⟩

/-- Space around the text of a value belongs to what is around its place. -/
theorem HasPlace.spaced {gap gap' : List Char} (hgap : IsGap gap) (h : HasPlace f j s)
    (hgap' : IsGap gap') : HasPlace f j (gap ++ (s ++ gap')) := by
  obtain ⟨before, t, after, rfl, ht, hplace⟩ := h
  refine ⟨gap ++ before, t, after ++ gap', by simp only [List.append_assoc], ht, fun k u hu => ?_⟩
  have hwhole := IsText.spaced hgap (hplace k u hu) hgap'
  simpa only [List.append_assoc] using hwhole

section Members

variable {ms₁ ms₂ : List (Option String × Json)} {key : Option String} {items₁ items₂ : List Json}

theorem exists_place_of_members (h : AreMembers (ms₁ ++ (key, j) :: ms₂) s) :
    ∃ before t after, s = before ++ (t ++ after) ∧ IsText j t ∧
      ∀ k u, IsText k u → AreMembers (ms₁ ++ (key, k) :: ms₂) (before ++ (u ++ after)) := by
  induction ms₁ generalizing s with
  | nil =>
    cases h with
    | @last _ _ g k g' t hg hk hg' h =>
      refine ⟨g ++ (k ++ (g' ++ [':'])), t, [], by simp, h, fun j u hu => ?_⟩
      have hall := AreMembers.last hg hk hg' hu
      simpa using hall
    | @cons _ _ _ g k g' t r hg hk hg' h hr =>
      refine ⟨g ++ (k ++ (g' ++ [':'])), t, ',' :: r, by simp, h, fun j u hu => ?_⟩
      have hall := AreMembers.cons hg hk hg' hu hr
      simpa using hall
  | cons m ms₁ ih =>
    rw [List.cons_append] at h
    generalize hms : ms₁ ++ (key, j) :: ms₂ = ms at h
    cases h with
    | last => simp at hms
    | @cons _ _ _ g k g' t r hg hk hg' h hr =>
      subst hms
      obtain ⟨before, u, after, rfl, hu, hplace⟩ := ih hr
      refine ⟨g ++ (k ++ (g' ++ ':' :: (t ++ ',' :: before))), u, after, by simp, hu,
        fun k u hu => ?_⟩
      have hall := AreMembers.cons hg hk hg' h (hplace k u hu)
      simpa using hall

theorem exists_place_of_items (h : AreItems (items₁ ++ j :: items₂) s) :
    ∃ before t after, s = before ++ (t ++ after) ∧ IsText j t ∧
      ∀ k u, IsText k u → AreItems (items₁ ++ k :: items₂) (before ++ (u ++ after)) := by
  induction items₁ generalizing s with
  | nil =>
    cases h with
    | last h => exact ⟨[], s, [], by simp, h, fun k u hu => by simpa using AreItems.last hu⟩
    | @cons _ _ t r h hr => exact ⟨[], t, ',' :: r, by simp, h, fun k u hu => .cons hu hr⟩
  | cons i items₁ ih =>
    rw [List.cons_append] at h
    generalize hitems : items₁ ++ j :: items₂ = items at h
    cases h with
    | last => simp at hitems
    | @cons _ _ t r h hr =>
      subst hitems
      obtain ⟨before, u, after, rfl, hu, hplace⟩ := ih hr
      refine ⟨t ++ ',' :: before, u, after, by simp, hu, fun k u hu => ?_⟩
      have hall := AreItems.cons h (hplace k u hu)
      simpa using hall

/-- Every member of an object has a place in the text of the object. -/
theorem hasPlace_member (h : IsText (.object (ms₁ ++ (key, j) :: ms₂) true) s) :
    HasPlace (fun x => .object (ms₁ ++ (key, x) :: ms₂) true) j s := by
  obtain ⟨gap, t, gap', hgap, ht, hgap', rfl⟩ := isAround_of_isText h
  refine HasPlace.spaced hgap ?_ hgap'
  generalize hms : ms₁ ++ (key, j) :: ms₂ = ms at ht
  cases ht with
  | literal h => cases h
  | emptyObject => simp at hms
  | object h =>
    subst hms
    obtain ⟨before, t, after, rfl, ht, hplace⟩ := exists_place_of_members h
    refine ⟨'\x7b' :: before, t, after ++ ['\x7d'], by simp, ht, fun k u hu => ?_⟩
    have hwhole := IsText.object (hplace k u hu)
    simpa using hwhole

theorem hasPlace_item (h : IsText (.array (items₁ ++ j :: items₂) true) s) :
    HasPlace (fun x => .array (items₁ ++ x :: items₂) true) j s := by
  obtain ⟨gap, t, gap', hgap, ht, hgap', rfl⟩ := isAround_of_isText h
  refine HasPlace.spaced hgap ?_ hgap'
  generalize hitems : items₁ ++ j :: items₂ = items at ht
  cases ht with
  | literal h => cases h
  | emptyArray => simp at hitems
  | array h =>
    subst hitems
    obtain ⟨before, t, after, rfl, ht, hplace⟩ := exists_place_of_items h
    refine ⟨'[' :: before, t, after ++ [']'], by simp, ht, fun k u hu => ?_⟩
    have hwhole := IsText.array (hplace k u hu)
    simpa using hwhole

end Members

theorem IsBare.isLiteral (h : IsBare j t) (hj : (∃ b, j = .bool b) ∨ ∃ n, j = .number n) :
    IsLiteral j t := by
  cases h with
  | literal h => exact h
  | _ => simp at hj

/-- A literal that has a place has one with no space around it. -/
theorem HasPlace.exists_literal (h : HasPlace f j s)
    (hj : (∃ b, j = .bool b) ∨ ∃ n, j = .number n) :
    ∃ before t after, s = before ++ (t ++ after) ∧ IsLiteral j t ∧ IsPlace f before after := by
  obtain ⟨before, u, after, rfl, hu, hplace⟩ := h
  obtain ⟨gap, t, gap', hgap, ht, hgap', rfl⟩ := isAround_of_isText hu
  refine ⟨before ++ gap, t, gap' ++ after, by simp only [List.append_assoc], ht.isLiteral hj,
    fun k v hv => ?_⟩
  have hwhole := hplace k _ (.spaced hgap hv hgap')
  simpa only [List.append_assoc] using hwhole

end Testbed.Json
