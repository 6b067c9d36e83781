import Testbed.Proofs.Json.Canonical

/-!
# Compact texts

The compact text of a canonical datum spells the tree of the datum without any space between its
tokens, and the names in the tree are in order.
-/

namespace Testbed.Json

section Solid

variable {t t' : List Char}

/-- A piece of text that adds no space between the tokens of what follows it. -/
def IsSolid (t : List Char) : Prop := ∀ r, IsCompact r → IsCompact (t ++ r)

theorem IsSolid.isCompact (h : IsSolid t) : IsCompact t := by
  rw [← List.append_nil t]
  exact h [] (by simp [IsCompact, outside])

theorem IsSolid.append (h : IsSolid t) (h' : IsSolid t') : IsSolid (t ++ t') := by
  intro r hr
  rw [List.append_assoc]
  exact h _ (h' r hr)

theorem isSolid_of_forall (h : ∀ c ∈ t, c ≠ '"' ∧ isSpace c = false) : IsSolid t := by
  intro r hr
  induction t with
  | nil => exact hr
  | cons c t ih =>
    obtain ⟨⟨hquote, hspace⟩, ht⟩ := List.forall_mem_cons.mp h
    rw [List.cons_append, IsCompact, outside, if_neg hquote]
    exact List.forall_mem_cons.mpr ⟨hspace, ih ht⟩

theorem IsSolid.cons {c : Char} (hc : c ≠ '"' ∧ isSpace c = false) (h : IsSolid t) :
    IsSolid (c :: t) := (isSolid_of_forall (t := [c]) (by simpa using hc)).append h

theorem isSolid_quote (s : String) : IsSolid (quote s) := by
  intro r hr
  rw [IsCompact, outside_string (isString_quote s)]
  exact hr

theorem solid_digitChar {d : ℕ} (h : d < 10) :
    Nat.digitChar d ≠ '"' ∧ isSpace (Nat.digitChar d) = false := by
  revert d
  decide

theorem isSolid_toString (i : ℤ) : IsSolid (toString i).toList := by
  have hdigits : IsSolid (Numeral.digits (Numeral.decimal i.natAbs)) :=
    isSolid_of_forall (List.forall_mem_map.mpr fun d hd =>
      solid_digitChar (Numeral.areDigits_decimal _ d hd))
  rw [Numeral.toList_toString]
  refine IsSolid.append ?_ hdigits
  split_ifs <;> exact isSolid_of_forall (by simp [isSpace])

end Solid

namespace Datum

section Texts

variable {n : ℕ} {d : Datum}

theorem areItems_chars {d : Datum} {items : List Datum}
    (h : ∀ e ∈ d :: items, IsText e.tree e.chars) :
    AreItems (treeItems (d :: items)) (charsItems (d :: items)) := by
  induction items generalizing d with
  | nil => exact .last (h d List.mem_cons_self)
  | cons e items ih =>
    obtain ⟨hd, hitems⟩ := List.forall_mem_cons.mp h
    exact .cons hd (ih hitems)

theorem areMembers_chars {m : String × Datum} {members : List (String × Datum)}
    (h : ∀ e ∈ m :: members, IsText e.2.tree e.2.chars) :
    AreMembers (named (treeMembers (m :: members))) (charsMembers (m :: members)) := by
  induction members generalizing m with
  | nil => exact .last isGap_nil (isString_quote m.1) isGap_nil (h m List.mem_cons_self)
  | cons e members ih =>
    obtain ⟨hm, hmembers⟩ := List.forall_mem_cons.mp h
    exact .cons isGap_nil (isString_quote m.1) isGap_nil hm (ih hmembers)

/-- The compact text of a canonical datum spells its tree. -/
theorem IsCanonical.isText (h : d.IsCanonical n) : IsText d.tree d.chars := by
  induction h with
  | null => exact .null
  | bool b =>
    cases b with
    | true => exact .true
    | false => exact .false
  | integer hi => exact .number (Numeral.isText_ofInt _)
  | string s => exact .string (isString_quote s)
  | @array _ items _ _ ih =>
    cases items with
    | nil => exact .emptyArray isGap_nil
    | cons d items => exact .array (areItems_chars ih)
  | @object _ members _ _ _ ih =>
    cases members with
    | nil => exact .emptyObject isGap_nil
    | cons m members => exact .object (areMembers_chars ih)

theorem isSolid_charsItems {items : List Datum} (h : ∀ d ∈ items, IsSolid d.chars) :
    IsSolid (charsItems items) := by
  induction items with
  | nil => exact isSolid_of_forall (by simp [charsItems])
  | cons d items ih =>
    obtain ⟨hd, hitems⟩ := List.forall_mem_cons.mp h
    cases items with
    | nil => exact hd
    | cons e items => exact hd.append ((ih hitems).cons (by decide))

theorem isSolid_charsMembers {members : List (String × Datum)}
    (h : ∀ m ∈ members, IsSolid m.2.chars) : IsSolid (charsMembers members) := by
  induction members with
  | nil => exact isSolid_of_forall (by simp [charsMembers])
  | cons m members ih =>
    obtain ⟨hm, hmembers⟩ := List.forall_mem_cons.mp h
    have hname := isSolid_quote m.1
    cases members with
    | nil => exact hname.append (hm.cons (by decide))
    | cons e members =>
      exact hname.append ((hm.append ((ih hmembers).cons (by decide))).cons (by decide))

theorem IsCanonical.isSolid (h : d.IsCanonical n) : IsSolid d.chars := by
  induction h with
  | null => exact isSolid_of_forall (by simp [chars, isSpace])
  | bool b => cases b <;> exact isSolid_of_forall (by simp [chars, isSpace])
  | integer hi => exact isSolid_toString _
  | string s => exact isSolid_quote s
  | array _ _ ih =>
    have hclose : IsSolid [']'] := isSolid_of_forall (by simp [isSpace])
    exact ((isSolid_charsItems ih).append hclose).cons (by decide)
  | object _ _ _ ih =>
    have hclose : IsSolid ['\x7d'] := isSolid_of_forall (by simp [isSpace])
    exact ((isSolid_charsMembers ih).append hclose).cons (by decide)

theorem IsCanonical.isOrdered (h : d.IsCanonical n) : d.tree.IsOrdered := by
  induction h with
  | null => exact .null
  | bool b => exact .bool b
  | integer hi => exact .number _
  | string s => exact .string _
  | array _ _ ih =>
    rw [tree, treeItems_eq_map]
    exact .array (List.forall_mem_map.mpr ih)
  | object _ hnames _ ih =>
    rw [tree]
    refine .object (by rwa [names_treeMembers]) ?_
    rw [treeMembers_eq_map]
    exact List.forall_mem_map.mpr ih

end Texts

end Datum

end Testbed.Json
