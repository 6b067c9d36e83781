import Mathlib.Tactic.IntervalCases
import Testbed.Proofs.Text.Letters
import Testbed.Proofs.Text.Utf8
import Testbed.Text.Percent

/-!
# Reading percent encodings back

A text that is percent encoded is decoded to its bytes if the sign itself is encoded too. What is
encoded consists of the characters that are kept, signs and digits.
-/

namespace Testbed.Text.Percent

section Digits

theorem hexValue?_hexDigit {n : ℕ} (hn : n < 16) : hexValue? (hexDigit n) = some n := by
  interval_cases n <;> rfl

theorem isUnreserved_hexDigit {n : ℕ} (hn : n < 16) : isUnreserved (hexDigit n) = true := by
  interval_cases n <;> rfl

theorem decode_encodeByte (b : UInt8) (r : List Char) :
    decode (encodeByte b ++ r) = b :: decode r := by
  have hb : b.toNat < 256 := b.toNat_lt
  have hvalue : 16 * (b.toNat / 16) + b.toNat % 16 = b.toNat := by omega
  have hhigh := hexValue?_hexDigit (n := b.toNat / 16) (by omega)
  have hlow := hexValue?_hexDigit (n := b.toNat % 16) (by omega)
  simp only [encodeByte, List.cons_append, List.nil_append, decode, hhigh, hlow, hvalue,
    UInt8.ofNat_toNat]

theorem decode_of_ne {c : Char} (hc : c ≠ '%') (r : List Char) :
    decode (c :: r) = Utf8.encodeChar c ++ decode r := by
  rw [decode]
  simp [hc]

end Digits

section Texts

variable {keep : Char → Bool}

theorem decode_encodeChar (hkeep : keep '%' = false) (c : Char) (r : List Char) :
    decode (encodeChar keep c ++ r) = Utf8.encodeChar c ++ decode r := by
  have hbytes (bs : List UInt8) : decode (bs.flatMap encodeByte ++ r) = bs ++ decode r := by
    induction bs with
    | nil => rfl
    | cons b bs ih =>
      rw [List.flatMap_cons, List.append_assoc, decode_encodeByte, ih, List.cons_append]
  cases hc : keep c with
  | false => rw [encodeChar, hc, if_neg Bool.false_ne_true, hbytes]
  | true =>
    have hne : c ≠ '%' := fun e => by simp [e, hkeep] at hc
    rw [encodeChar, hc, if_pos rfl, List.singleton_append, decode_of_ne hne]

theorem decode_encode (hkeep : keep '%' = false) (s : List Char) :
    decode (encode keep s) = Utf8.encode s := by
  induction s with
  | nil => rfl
  | cons c s ih =>
    have hcons : encode keep (c :: s) = encodeChar keep c ++ encode keep s := rfl
    rw [hcons, decode_encodeChar hkeep, ih]
    rfl

theorem encode_injective (hkeep : keep '%' = false) : Function.Injective (encode keep) := by
  intro s t h
  have hbytes := decode_encode hkeep s
  rw [h, decode_encode hkeep] at hbytes
  exact (Utf8.encode_injective hbytes).symm

theorem encode_of_kept {s : List Char} (h : ∀ c ∈ s, keep c = true) : encode keep s = s := by
  induction s with
  | nil => rfl
  | cons c s ih =>
    have hcons : encode keep (c :: s) = encodeChar keep c ++ encode keep s := rfl
    rw [hcons, ih fun d hd => h d (List.mem_cons_of_mem _ hd), encodeChar,
      if_pos (h c List.mem_cons_self), List.singleton_append]

theorem mem_encodeByte {b : UInt8} {c : Char} (h : c ∈ encodeByte b) :
    isUnreserved c = true ∨ c = '%' := by
  have hb : b.toNat < 256 := b.toNat_lt
  simp only [encodeByte, List.mem_cons, List.not_mem_nil, or_false] at h
  rcases h with rfl | rfl | rfl
  · exact .inr rfl
  · exact .inl (isUnreserved_hexDigit (by omega))
  · exact .inl (isUnreserved_hexDigit (by omega))

/-- The characters of a value that is encoded as data. -/
theorem mem_encode {s : List Char} {c : Char} (h : c ∈ encode isUnreserved s) :
    isUnreserved c = true ∨ c = '%' := by
  obtain ⟨d, -, hd⟩ := List.mem_flatMap.mp h
  unfold encodeChar at hd
  split at hd
  · next hkept => exact .inl (List.mem_singleton.mp hd ▸ hkept)
  · obtain ⟨b, -, hc⟩ := List.mem_flatMap.mp hd
    exact mem_encodeByte hc

end Texts

section Dots

theorem toLower_cases (c : Char) : c.toLower = c ∨
    0x41 ≤ c.toNat ∧ c.toNat ≤ 0x5A ∧ c.toLower.toNat = c.toNat + 32 := by
  have hlower := toNat_toLower c
  by_cases hc : 0x41 ≤ c.toNat ∧ c.toNat ≤ 0x5A
  · exact .inr ⟨hc.1, hc.2, hlower.trans (if_pos hc)⟩
  · exact .inl (Char.toNat_inj.mp (hlower.trans (if_neg hc)))

theorem eq_of_toLower {c d : Char} (hd : d.toNat < 0x61) (h : c.toLower = d) : c = d := by
  rcases toLower_cases c with hc | ⟨hlow, hhigh, hc⟩
  · exact hc.symm.trans h
  · rw [h] at hc
    omega

theorem hexValue?_toLower (c : Char) : hexValue? c.toLower = hexValue? c := by
  rcases toLower_cases c with hc | ⟨hlow, hhigh, hc⟩
  · rw [hc]
  · rw [hexValue?, hexValue?, hc]
    by_cases hdigit : c.toNat ≤ 0x46
    · rw [if_neg (by omega), if_neg (by omega), if_pos (by omega), if_neg (by omega),
        if_pos (by omega), Option.some.injEq]
      omega
    · rw [if_neg (by omega), if_neg (by omega), if_neg (by omega), if_neg (by omega),
        if_neg (by omega), if_neg (by omega)]

/-- A dot is read as the byte of a dot, also from its encoding in letters of either case. -/
theorem exists_decode_of_dot {s r : List Char}
    (h : s.map Char.toLower = '.' :: r ∨ s.map Char.toLower = '%' :: '2' :: 'e' :: r) :
    ∃ s', s'.map Char.toLower = r ∧ decode s = 0x2E :: decode s' := by
  rcases h with h | h
  · obtain ⟨c, s', rfl, hc, hr⟩ := List.map_eq_cons_iff.mp h
    obtain rfl := eq_of_toLower (by decide) hc
    exact ⟨s', hr, rfl⟩
  · obtain ⟨c, s₁, rfl, hc, h₁⟩ := List.map_eq_cons_iff.mp h
    obtain ⟨c₁, s₂, rfl, hc₁, h₂⟩ := List.map_eq_cons_iff.mp h₁
    obtain ⟨c₂, s', rfl, hc₂, hr⟩ := List.map_eq_cons_iff.mp h₂
    obtain rfl := eq_of_toLower (by decide) hc
    obtain rfl := eq_of_toLower (by decide) hc₁
    have hvalue : hexValue? c₂ = some 14 := by rw [← hexValue?_toLower, hc₂]; rfl
    have hdigit : hexValue? '2' = some 2 := rfl
    refine ⟨s', hr, ?_⟩
    simp only [decode, hdigit, hvalue]
    rfl

end Dots

end Testbed.Text.Percent
