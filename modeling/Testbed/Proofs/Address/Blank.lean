import Testbed.Address.HostText
import Testbed.Proofs.Text.Percent

/-!
# Blanks at the end of a host

A host whose text ends with a space or a control character is refused. Decoding, composing and
encoding its name leave the last character where it is, and no name may hold it.
-/

namespace Testbed

def IsBlankEnd (c : Char) : Prop := c.toNat ≤ 0x20

instance (c : Char) : Decidable (IsBlankEnd c) := inferInstanceAs (Decidable (_ ≤ _))

variable {c : Char}

theorem IsBlankEnd.ne (hc : IsBlankEnd c) {d : Char} (hd : 0x20 < d.toNat) : c ≠ d := by
  rintro rfl
  exact absurd hd (Nat.not_lt.mpr hc)

namespace Text

section Decoding

theorem Percent.hexValue?_of_blank (hc : IsBlankEnd c) : Percent.hexValue? c = none := by
  have hle : c.toNat ≤ 0x20 := hc
  rw [Percent.hexValue?, if_neg (by omega), if_neg (by omega), if_neg (by omega)]

/-- A sign that two digits do not follow stands for itself. -/
theorem Percent.decode_sign {s : List Char}
    (h : ∀ a b r, s = a :: b :: r → Percent.hexValue? a = none ∨ Percent.hexValue? b = none) :
    Percent.decode ('%' :: s) = Utf8.encodeChar '%' ++ Percent.decode s := by
  match s with
  | [] => rfl
  | [a] => rfl
  | a :: b :: r =>
    rcases h a b r rfl with ha | hb
    · simp [Percent.decode, ha]
    · simp [Percent.decode, hb]

/-- A character that is no digit is decoded apart from what is before it. -/
theorem Percent.decode_concat (hc : Percent.hexValue? c = none) (s : List Char) :
    Percent.decode (s ++ [c]) = Percent.decode s ++ Utf8.encodeChar c := by
  fun_induction Percent.decode s with
  | case1 a b r x y hx hy ih => simp [Percent.decode, hx, hy, ih]
  | case2 a b r hnot ih =>
    have hdigits : Percent.hexValue? a = none ∨ Percent.hexValue? b = none := by
      cases ha : Percent.hexValue? a with
      | none => exact .inl rfl
      | some x =>
        cases hb : Percent.hexValue? b with
        | none => exact .inr rfl
        | some y => exact absurd hb (hnot x y ha)
    rw [List.cons_append, Percent.decode_sign, ih, List.append_assoc]
    intro a' b' r' h
    obtain ⟨rfl, rfl⟩ : a = a' ∧ b = b' := by simp_all
    exact hdigits
  | case3 d r hshort ih =>
    by_cases hd : d = '%'
    · subst hd
      rw [List.cons_append, Percent.decode_sign, ih, List.append_assoc]
      intro a b r' h
      rcases r with _ | ⟨e, _ | ⟨f, r⟩⟩
      · simp at h
      · exact .inr (by simp_all)
      · exact (hshort e f r rfl rfl).elim
    · rw [List.cons_append, Percent.decode_of_ne hd, ih, List.append_assoc]
  | case4 => cases hd : decide (c = '%') <;> simp_all [Percent.decode]

theorem Utf8.encodeChar_of_blank (hc : IsBlankEnd c) : Utf8.encodeChar c = [.ofNat c.toNat] := by
  have hle : c.toNat ≤ 0x20 := hc
  rw [Utf8.encodeChar, if_pos (by omega)]

/-- The last byte of a character tells whether it is one of ASCII. -/
theorem Utf8.eq_of_getLast?_encodeChar (hc : IsBlankEnd c) {d : Char}
    (h : (Utf8.encodeChar d).getLast? = some (.ofNat c.toNat)) : d = c := by
  have hle : c.toNat ≤ 0x20 := hc
  have hbyte {m : ℕ} (hm : UInt8.ofNat m = UInt8.ofNat c.toNat) : m % 256 = c.toNat := by
    have := congrArg UInt8.toNat hm
    simpa [Nat.mod_eq_of_lt (show c.toNat < 256 by omega)] using this
  simp only [Utf8.encodeChar] at h
  split_ifs at h with h₁ h₂ h₃ <;>
    simp only [List.getLast?_cons_cons, List.getLast?_singleton, Option.some.injEq] at h
  · have := hbyte h
    exact Char.toNat_inj.mp (by omega)
  all_goals
    have := hbyte h
    omega

/-- Bytes that end with that of a blank are those of a text that ends with it. -/
theorem Utf8.exists_of_encode_concat (hc : IsBlankEnd c) {s : List Char} {bytes : List UInt8}
    (h : Utf8.encode s = bytes ++ Utf8.encodeChar c) : ∃ t, s = t ++ [c] := by
  rw [Utf8.encodeChar_of_blank hc] at h
  rcases List.eq_nil_or_concat s with rfl | ⟨t, d, rfl⟩
  · simp [Utf8.encode] at h
  · have hlast := congrArg List.getLast? h
    rw [List.concat_eq_append, Utf8.encode, List.flatMap_append, List.flatMap_singleton,
      List.getLast?_append, List.getLast?_concat] at hlast
    have hd : (Utf8.encodeChar d).getLast? = some (.ofNat c.toNat) := by
      cases hlast' : (Utf8.encodeChar d).getLast? with
      | none =>
        rw [List.getLast?_eq_none_iff] at hlast'
        simp only [Utf8.encodeChar] at hlast'
        split_ifs at hlast'
      | some b => simpa [hlast'] using hlast
    exact ⟨t, by rw [Utf8.eq_of_getLast?_encodeChar hc hd, List.concat_eq_append]⟩

end Decoding

section Composing

variable {n : ℕ}

theorem placeMark_concat (hn : combiningClass n = 0) (m : ℕ) (l : List ℕ) :
    placeMark m (l ++ [n]) = placeMark m l ++ [n] := by
  induction l with
  | nil => simp [placeMark, hn]
  | cons k l ih =>
    rw [List.cons_append, placeMark, placeMark, ih]
    split_ifs <;> rfl

theorem foldr_placeMark_concat (hn : combiningClass n = 0) (l : List ℕ) :
    (l ++ [n]).foldr placeMark [] = l.foldr placeMark [] ++ [n] := by
  induction l with
  | nil => rfl
  | cons m l ih => rw [List.cons_append, List.foldr_cons, ih, placeMark_concat hn, List.foldr_cons]

/-- A character before all marks joins nothing and is joined to nothing before it. -/
theorem joinFrom_concat (hn : n < 0x300) (a : ℕ) (marks l : List ℕ) :
    joinFrom a marks (l ++ [n]) = joinFrom a marks l ++ [n] := by
  have hclass : combiningClass n = 0 := by rw [combiningClass, if_pos hn]
  have htogether (a : ℕ) : together? a n = none := by rw [together?, if_pos hn]
  induction l generalizing a marks with
  | nil => simp [joinFrom, hclass, htogether]
  | cons b l ih =>
    simp only [List.cons_append, joinFrom, ih]
    split
    · rfl
    · split_ifs <;> simp

theorem composed_concat (hc : IsBlankEnd c) (s : List Char) :
    composed (s ++ [c]) = composed s ++ [c] := by
  have hn : c.toNat < 0x300 := Nat.lt_of_le_of_lt hc (by decide)
  have hclass : combiningClass c.toNat = 0 := by rw [combiningClass, if_pos hn]
  have hparts : parts c.toNat = [c.toNat] := by
    rw [parts, if_pos (Nat.lt_of_le_of_lt hc (by decide))]
  have hdecomposed : decomposed ((s ++ [c]).map Char.toNat) =
      decomposed (s.map Char.toNat) ++ [c.toNat] := by
    rw [List.map_append, List.map_singleton, decomposed, List.flatMap_append,
      List.flatMap_singleton, hparts, foldr_placeMark_concat hclass, decomposed]
  rw [composed, composed, hdecomposed]
  cases decomposed (s.map Char.toNat) with
  | nil => simp [joinFrom]
  | cons a l =>
    rw [List.cons_append]
    simp only [joinFrom_concat hn, List.map_append, List.map_singleton, Char.ofNat_toNat]

end Composing

theorem exists_mem_cut {sep : Char} {s : List Char} (hc : c ∈ s) (hsep : c ≠ sep) :
    ∃ p ∈ cut sep s, c ∈ p := by
  obtain ⟨a, b, rfl⟩ := List.append_of_mem hc
  clear hc
  induction a with
  | nil =>
    rw [List.nil_append, cut, if_neg hsep]
    split
    · exact ⟨[c], by simp⟩
    · exact ⟨_, List.mem_cons_self, List.mem_cons_self⟩
  | cons d a ih =>
    obtain ⟨p, hp, hmem⟩ := ih
    rw [List.cons_append, cut]
    split_ifs
    · exact ⟨p, List.mem_cons_of_mem _ hp, hmem⟩
    · cases hcut : cut sep (a ++ c :: b) with
      | nil => simp [hcut] at hp
      | cons q qs =>
        rw [hcut] at hp
        rcases List.mem_cons.mp hp with rfl | hp
        · exact ⟨_, List.mem_cons_self, List.mem_cons_of_mem _ hmem⟩
        · exact ⟨p, List.mem_cons_of_mem _ hp, hmem⟩

end Text

namespace Address.Name

theorem usual?_concat (hc : IsBlankEnd c) {s u : List Char} (h : usual? (s ++ [c]) = some u) :
    c ∈ u := by
  have hle : c.toNat ≤ 0x20 := hc
  have hlower : c.toLower = c := by
    rcases Text.Percent.toLower_cases c with h | h
    · exact h
    · omega
  have hascii : isAscii c = true := by simpa [isAscii] using Nat.lt_of_le_of_lt hle (by decide)
  have hform : usualForm? c = some [c] := by rw [usualForm?, if_pos hascii, hlower]
  unfold usual? at h
  split_ifs at h
  · obtain rfl := Option.some.inj h
    simp [hlower]
  · rw [List.mapM_append] at h
    cases hforms : s.mapM usualForm? with
    | none => simp [hforms] at h
    | some forms =>
      simp only [hforms, List.mapM_cons, hform, List.mapM_nil, Option.bind_eq_bind,
        Option.bind_some, Option.pure_def, Option.map_some, Option.some.injEq,
        List.flatten_append] at h
      rw [← h]
      simp [Text.composed_concat hc]

theorem mem_encode (hc : c.toNat < 0x80) {label : List Char} (h : c ∈ label) :
    c ∈ Punycode.encode label := by
  have hbasic : c ∈ label.filter (·.toNat < 0x80) := by simpa using ⟨h, hc⟩
  have hne : (label.filter (·.toNat < 0x80)).isEmpty = false := by
    cases hf : label.filter (·.toNat < 0x80) with
    | nil => simp [hf] at hbasic
    | cons => rfl
  simp only [Punycode.encode, hne, Bool.false_eq_true, if_false]
  exact List.mem_append_left _ (List.mem_append_left _ hbasic)

/-- A label is written with all its characters of ASCII. -/
theorem mem_ascii_of_readLabel? (hc : c.toNat < 0x80) {label : List Char} {l : Label}
    (h : readLabel? label = some l) (hmem : c ∈ label) : c ∈ l.ascii := by
  unfold readLabel? at h
  split_ifs at h
  · obtain ⟨shown, -, rfl⟩ := Option.map_eq_some_iff.mp h
    exact hmem
  · obtain rfl := Option.some.inj h
    exact hmem
  · obtain rfl := Option.some.inj h
    exact List.mem_append_right _ (mem_encode hc hmem)

theorem exists_of_mapM {α β : Type} {f : α → Option β} {as : List α} {bs : List β}
    (h : as.mapM f = some bs) {a : α} (ha : a ∈ as) : ∃ b ∈ bs, f a = some b := by
  induction as generalizing bs with
  | nil => cases ha
  | cons a' as ih =>
    rw [List.mapM_cons] at h
    obtain ⟨b, hb, h⟩ := Option.bind_eq_some_iff.mp h
    obtain ⟨bs', hbs, h⟩ := Option.bind_eq_some_iff.mp h
    obtain rfl := Option.some.inj h
    rcases List.mem_cons.mp ha with rfl | ha
    · exact ⟨b, List.mem_cons_self, hb⟩
    · obtain ⟨b', hb', hf⟩ := ih hbs ha
      exact ⟨b', List.mem_cons_of_mem _ hb', hf⟩

theorem mem_intercalate {α : Type} {sep l : List α} {ls : List (List α)} (hl : l ∈ ls) {a : α}
    (ha : a ∈ l) : a ∈ sep.intercalate ls := by
  obtain ⟨ls₁, ls₂, rfl⟩ := List.append_of_mem hl
  clear hl
  induction ls₁ with
  | nil => cases ls₂ <;> simp [List.intercalate, ha]
  | cons k ls₁ ih =>
    cases ls₁ <;> simp_all [List.intercalate]

/-- No name ends with a blank. -/
theorem ascii?_concat (hc : IsBlankEnd c) (s : List Char) : ascii? (s ++ [c]) = none := by
  have hle : c.toNat ≤ 0x20 := hc
  have hforbidden : isForbidden c = true := by simp [isForbidden, hle]
  cases husual : usual? (s ++ [c]) with
  | none => simp [ascii?, husual]
  | some u =>
    cases hlabels : (Text.cut '.' u).mapM readLabel? with
    | none => simp [ascii?, husual, hlabels]
    | some labels =>
      have hdot : c ≠ '.' := hc.ne (by decide)
      obtain ⟨p, hp, hmem⟩ := Text.exists_mem_cut (usual?_concat hc husual) hdot
      obtain ⟨l, hl, hread⟩ := exists_of_mapM hlabels hp
      have hascii := mem_ascii_of_readLabel? (Nat.lt_of_le_of_lt hle (by decide)) hread hmem
      have hwhole : c ∈ ['.'].intercalate (labels.map (·.ascii)) :=
        mem_intercalate (List.mem_map_of_mem hl) hascii
      have hany : (['.'].intercalate (labels.map (·.ascii))).any isForbidden = true :=
        List.any_eq_true.mpr ⟨c, hwhole, hforbidden⟩
      simp only [ascii?, husual, hlabels, hany, Option.bind_eq_bind, Option.bind_some,
        Bool.not_true, Bool.and_false, Bool.false_eq_true, if_false]

end Address.Name

theorem Host.exists_error_read_concat (hc : IsBlankEnd c) (s : List Char) :
    ∃ e, Host.read (s ++ [c]) = .error e := by
  have hbracket : c ≠ ']' := hc.ne (by decide)
  rw [Host.read]
  cases hbracketed : bracketed? (s ++ [c]) with
  | some r =>
    unfold bracketed? at hbracketed
    split at hbracketed
    · next r' hr' =>
      have hlast : (s ++ [c]).getLast? = some c := List.getLast?_concat
      rw [hr'] at hlast
      cases r' with
      | nil =>
        simp at hbracketed
        exact ⟨_, hbracketed.symm⟩
      | cons d r' =>
        rw [List.getLast?_cons_cons] at hlast
        rw [hlast, if_neg (by simpa using hbracket)] at hbracketed
        exact ⟨_, (Option.some.inj hbracketed).symm⟩
    · cases hbracketed
  | none =>
    refine ⟨.invalidName, ?_⟩
    cases hdecode : Text.Utf8.decode (Text.Percent.decode (s ++ [c])) with
    | error e => rfl
    | ok decoded =>
      rw [Text.Utf8.decode_eq_ok_iff, Text.Percent.decode_concat
        (Text.Percent.hexValue?_of_blank hc)] at hdecode
      obtain ⟨t, rfl⟩ := Text.Utf8.exists_of_encode_concat hc hdecode.symm
      simp only [Address.Name.ascii?_concat hc]

end Testbed
