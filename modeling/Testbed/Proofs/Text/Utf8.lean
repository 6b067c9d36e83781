import Mathlib.Order.Nat
import Testbed.Text.Utf8

/-!
# Reading UTF-8 back

Strict reading takes the bytes of one character at a time, so that it gives back whatever was
written, and reads nothing that was not. Different texts have different bytes.
-/

namespace Testbed.Text.Utf8

section Characters

variable {n : ℕ}

theorem lead?_two (hlow : 0x80 ≤ n) (hhigh : n < 0x800) :
    lead? (.ofNat (0xC0 + n / 64)) = some ⟨n / 64, 0x80, 0xBF, 1⟩ := by
  have hbyte : (UInt8.ofNat (0xC0 + n / 64)).toNat = 0xC0 + n / 64 := by
    rw [UInt8.toNat_ofNat']
    omega
  rw [lead?, hbyte, if_pos (by omega), Nat.add_sub_cancel_left]

/-- The bounds of the second byte leave out what two bytes can say, and the surrogates. -/
theorem exists_lead?_three (hlow : 0x800 ≤ n) (hhigh : n < 0x10000)
    (hvalid : n < 0xD800 ∨ 0xDFFF < n) :
    ∃ low high, lead? (.ofNat (0xE0 + n / 4096)) = some ⟨n / 4096, low, high, 2⟩ ∧
      low ≤ 0x80 + n / 64 % 64 ∧ 0x80 + n / 64 % 64 ≤ high := by
  have hbyte : (UInt8.ofNat (0xE0 + n / 4096)).toNat = 0xE0 + n / 4096 := by
    rw [UInt8.toNat_ofNat']
    omega
  rw [lead?, hbyte, if_neg (by omega)]
  by_cases hfirst : n / 4096 = 0
  · refine ⟨0xA0, 0xBF, by rw [if_pos (by omega), hfirst], ?_⟩
    omega
  · by_cases hsurrogate : n / 4096 = 13
    · refine ⟨0x80, 0x9F, by rw [if_neg (by omega), if_pos (by omega), hsurrogate], ?_⟩
      omega
    · refine ⟨0x80, 0xBF, ?_, by omega⟩
      rw [if_neg (by omega), if_neg (by omega), if_pos (by omega), Nat.add_sub_cancel_left]

/-- The bounds of the second byte leave out what three bytes can say, and what is no character. -/
theorem exists_lead?_four (hlow : 0x10000 ≤ n) (hhigh : n < 0x110000) :
    ∃ low high, lead? (.ofNat (0xF0 + n / 262144)) = some ⟨n / 262144, low, high, 3⟩ ∧
      low ≤ 0x80 + n / 4096 % 64 ∧ 0x80 + n / 4096 % 64 ≤ high := by
  have hbyte : (UInt8.ofNat (0xF0 + n / 262144)).toNat = 0xF0 + n / 262144 := by
    rw [UInt8.toNat_ofNat']
    omega
  rw [lead?, hbyte, if_neg (by omega), if_neg (by omega), if_neg (by omega), if_neg (by omega)]
  by_cases hfirst : n / 262144 = 0
  · refine ⟨0x90, 0xBF, by rw [if_pos (by omega), hfirst], ?_⟩
    omega
  · by_cases hlast : n / 262144 = 4
    · refine ⟨0x80, 0x8F, ?_, by omega⟩
      rw [if_neg (by omega), if_neg (by omega), if_pos (by omega), hlast]
    · refine ⟨0x80, 0xBF, ?_, by omega⟩
      rw [if_neg (by omega), if_pos (by omega), Nat.add_sub_cancel_left]

theorem tail_cons {value low high taken k x : ℕ} {r : List UInt8}
    (hlow : low ≤ 0x80 + x % 64) (hhigh : 0x80 + x % 64 ≤ high) :
    tail value low high taken (k + 1) (.ofNat (0x80 + x % 64) :: r) =
      tail (value * 64 + x % 64) 0x80 0xBF (taken + 1) k r := by
  have hbyte : (UInt8.ofNat (0x80 + x % 64)).toNat = 0x80 + x % 64 := by
    rw [UInt8.toNat_ofNat']
    omega
  have hshare : (0x80 + x % 64) % 64 = x % 64 := by omega
  rw [tail, hbyte, if_pos ⟨hlow, hhigh⟩, hshare]

theorem step_of_lead? {b : UInt8} {l : Lead} (hb : lead? b = some l) (r : List UInt8) :
    step b r = tail l.value l.low l.high 1 l.tails r := by
  have hbyte : ¬b.toNat < 0x80 := by
    intro hlt
    simp only [lead?] at hb
    split_ifs at hb <;> omega
  rw [step, if_neg hbyte, hb]

/-- The bytes of a character are read as that character, whatever follows them. -/
theorem step_encodeChar (c : Char) (r : List UInt8) :
    ∃ b bs, encodeChar c = b :: bs ∧ step b (bs ++ r) = .char c (bs.length + 1) := by
  have hvalid : c.toNat < 0xD800 ∨ 0xDFFF < c.toNat ∧ c.toNat < 0x110000 := c.valid
  have hc := Char.ofNat_toNat c
  simp only [encodeChar]
  -- one case for each width; all that is left of the character is its number and its range
  generalize c.toNat = n at hvalid hc
  split_ifs with hone htwo hthree
  · refine ⟨_, _, rfl, ?_⟩
    have hbyte : (UInt8.ofNat n).toNat = n := by
      rw [UInt8.toNat_ofNat']
      omega
    rw [step, hbyte, if_pos hone, hc]
    rfl
  · refine ⟨_, _, rfl, ?_⟩
    have hvalue : n / 64 * 64 + n % 64 = n := by omega
    have hlow : 0x80 ≤ 0x80 + n % 64 := by omega
    have hhigh : 0x80 + n % 64 ≤ 0xBF := by omega
    rw [step_of_lead? (lead?_two (by omega) htwo), List.singleton_append, tail_cons hlow hhigh,
      hvalue, tail, hc]
    rfl
  · obtain ⟨low, high, hlead, hlow, hhigh⟩ :=
      exists_lead?_three (n := n) (by omega) hthree (by omega)
    refine ⟨_, _, rfl, ?_⟩
    have hvalue : (n / 4096 * 64 + n / 64 % 64) * 64 + n % 64 = n := by omega
    rw [step_of_lead? hlead, List.cons_append, tail_cons hlow hhigh, List.singleton_append,
      tail_cons (by omega) (by omega), hvalue, tail, hc]
    rfl
  · obtain ⟨low, high, hlead, hlow, hhigh⟩ := exists_lead?_four (n := n) (by omega) (by omega)
    refine ⟨_, _, rfl, ?_⟩
    have hvalue : ((n / 262144 * 64 + n / 4096 % 64) * 64 + n / 64 % 64) * 64 + n % 64 = n := by
      omega
    rw [step_of_lead? hlead, List.cons_append, tail_cons hlow hhigh, List.cons_append,
      tail_cons (by omega) (by omega), List.singleton_append, tail_cons (by omega) (by omega),
      hvalue, tail, hc]
    rfl

end Characters

section Texts

theorem exists_encode_cons (c : Char) (s : List Char) :
    ∃ b bs, encode (c :: s) = b :: (bs ++ encode s) ∧
      step b (bs ++ encode s) = .char c (bs.length + 1) := by
  obtain ⟨b, bs, hc, hstep⟩ := step_encodeChar c (encode s)
  refine ⟨b, bs, ?_, hstep⟩
  rw [encode, List.flatMap_cons, hc]
  rfl

theorem decodeFrom_skip (i : ℕ) (bs r : List UInt8) :
    decodeFrom i bs.length (bs ++ r) = decodeFrom (i + bs.length) 0 r := by
  induction bs generalizing i with
  | nil => rfl
  | cons b bs ih =>
    rw [List.length_cons, List.cons_append, decodeFrom, ih, Nat.add_assoc, Nat.add_comm 1]

theorem decodeFrom_encode (i : ℕ) (s : List Char) : decodeFrom i 0 (encode s) = .ok s := by
  induction s generalizing i with
  | nil => rfl
  | cons c s ih =>
    obtain ⟨b, bs, hcons, hstep⟩ := exists_encode_cons c s
    rw [hcons, decodeFrom, hstep]
    simp only [Nat.add_sub_cancel, decodeFrom_skip, ih]
    rfl

theorem decode_encode (s : List Char) : decode (encode s) = .ok s := decodeFrom_encode 0 s

theorem symbolsFrom_skip (bs r : List UInt8) :
    symbolsFrom bs.length (bs ++ r) = symbolsFrom 0 r := by
  induction bs with
  | nil => rfl
  | cons b bs ih => rw [List.length_cons, List.cons_append, symbolsFrom, ih]

theorem symbols_encode (s : List Char) : symbols (encode s) = s.map some := by
  rw [symbols]
  induction s with
  | nil => rfl
  | cons c s ih =>
    obtain ⟨b, bs, hcons, hstep⟩ := exists_encode_cons c s
    rw [hcons, symbolsFrom, hstep]
    simp only [Nat.add_sub_cancel, symbolsFrom_skip, ih, List.map_cons]

theorem encode_injective : Function.Injective encode := by
  intro s t h
  have hread := decode_encode s
  rw [h, decode_encode] at hread
  exact (Except.ok.inj hread).symm

end Texts

section Reading

variable {b : UInt8} {r : List UInt8} {c : Char} {n value low high taken k : ℕ}

theorem tail_succ_eq_char (h : tail value low high taken (k + 1) r = .char c n) :
    ∃ b r', r = b :: r' ∧ low ≤ b.toNat ∧ b.toNat ≤ high ∧
      tail (value * 64 + b.toNat % 64) 0x80 0xBF (taken + 1) k r' = .char c n := by
  cases r with
  | nil => cases h
  | cons b r =>
    rw [tail] at h
    split_ifs at h with hb
    exact ⟨b, r, rfl, hb.1, hb.2, h⟩

theorem ofNat_eq {m : ℕ} (h : m = b.toNat) : UInt8.ofNat m = b := by
  rw [h]
  exact UInt8.ofNat_toNat

theorem toNat_ofNat_of_valid {m : ℕ} (h : m < 0xD800 ∨ 0xDFFF < m ∧ m < 0x110000) :
    (Char.ofNat m).toNat = m := by
  have hvalid : m.isValidChar := h
  rw [Char.ofNat, dif_pos hvalid]
  rfl

theorem encodeChar_two {m : ℕ} (hlow : 0x80 ≤ m) (hhigh : m < 0x800) :
    encodeChar (.ofNat m) = [.ofNat (0xC0 + m / 64), .ofNat (0x80 + m % 64)] := by
  rw [encodeChar, toNat_ofNat_of_valid (by omega), if_neg (by omega), if_pos hhigh]

theorem encodeChar_three {m : ℕ} (hlow : 0x800 ≤ m) (hhigh : m < 0x10000)
    (hvalid : m < 0xD800 ∨ 0xDFFF < m) :
    encodeChar (.ofNat m) =
      [.ofNat (0xE0 + m / 4096), .ofNat (0x80 + m / 64 % 64), .ofNat (0x80 + m % 64)] := by
  rw [encodeChar, toNat_ofNat_of_valid (by omega), if_neg (by omega), if_neg (by omega),
    if_pos hhigh]

theorem encodeChar_four {m : ℕ} (hlow : 0x10000 ≤ m) (hhigh : m < 0x110000) :
    encodeChar (.ofNat m) =
      [.ofNat (0xF0 + m / 262144), .ofNat (0x80 + m / 4096 % 64), .ofNat (0x80 + m / 64 % 64),
        .ofNat (0x80 + m % 64)] := by
  rw [encodeChar, toNat_ofNat_of_valid (by omega), if_neg (by omega), if_neg (by omega),
    if_neg (by omega)]

/-- The bytes of a character, the first of which is `b`, as they stand before the rest of `r`. -/
def Begins (b : UInt8) (r : List UInt8) (c : Char) (n : ℕ) : Prop :=
  ∃ bs r', encodeChar c = b :: bs ∧ r = bs ++ r' ∧ n = bs.length + 1

theorem begins_two (hb : b.toNat = 0xC0 + value) (hvalue : 2 ≤ value ∧ value < 32)
    (hlow : 0x80 ≤ low) (hhigh : high ≤ 0xBF) (h : tail value low high 1 1 r = .char c n) :
    Begins b r c n := by
  obtain ⟨b₁, r, rfl, h₁, h₁', h⟩ := tail_succ_eq_char h
  obtain ⟨rfl, rfl⟩ : Char.ofNat (value * 64 + b₁.toNat % 64) = c ∧ 2 = n := by
    simpa [tail] using h
  refine ⟨[b₁], r, ?_, rfl, rfl⟩
  rw [encodeChar_two (by omega) (by omega), ofNat_eq (b := b) (by omega),
    ofNat_eq (b := b₁) (by omega)]

theorem begins_three (hb : b.toNat = 0xE0 + value) (hvalue : value < 16)
    (hlow : 0x80 ≤ low) (hhigh : high ≤ 0xBF) (hlong : value = 0 → 0xA0 ≤ low)
    (hvalid : value = 13 → high ≤ 0x9F) (h : tail value low high 1 2 r = .char c n) :
    Begins b r c n := by
  obtain ⟨b₁, r, rfl, h₁, h₁', h⟩ := tail_succ_eq_char h
  obtain ⟨b₂, r, rfl, h₂, h₂', h⟩ := tail_succ_eq_char h
  obtain ⟨rfl, rfl⟩ :
      Char.ofNat ((value * 64 + b₁.toNat % 64) * 64 + b₂.toNat % 64) = c ∧ 3 = n := by
    simpa [tail] using h
  refine ⟨[b₁, b₂], r, ?_, rfl, rfl⟩
  rw [encodeChar_three (by omega) (by omega) (by omega), ofNat_eq (b := b) (by omega),
    ofNat_eq (b := b₁) (by omega), ofNat_eq (b := b₂) (by omega)]

theorem begins_four (hb : b.toNat = 0xF0 + value) (hvalue : value < 5)
    (hlow : 0x80 ≤ low) (hhigh : high ≤ 0xBF) (hlong : value = 0 → 0x90 ≤ low)
    (hvalid : value = 4 → high ≤ 0x8F) (h : tail value low high 1 3 r = .char c n) :
    Begins b r c n := by
  obtain ⟨b₁, r, rfl, h₁, h₁', h⟩ := tail_succ_eq_char h
  obtain ⟨b₂, r, rfl, h₂, h₂', h⟩ := tail_succ_eq_char h
  obtain ⟨b₃, r, rfl, h₃, h₃', h⟩ := tail_succ_eq_char h
  obtain ⟨rfl, rfl⟩ : Char.ofNat
      (((value * 64 + b₁.toNat % 64) * 64 + b₂.toNat % 64) * 64 + b₃.toNat % 64) = c ∧ 4 = n := by
    simpa [tail] using h
  refine ⟨[b₁, b₂, b₃], r, ?_, rfl, rfl⟩
  rw [encodeChar_four (by omega) (by omega), ofNat_eq (b := b) (by omega),
    ofNat_eq (b := b₁) (by omega), ofNat_eq (b := b₂) (by omega), ofNat_eq (b := b₃) (by omega)]

/-- A character is read from no other bytes than its own. -/
theorem begins_of_step (h : step b r = .char c n) : Begins b r c n := by
  have hb := b.toNat_lt
  rw [step] at h
  split_ifs at h with hone
  · obtain ⟨rfl, rfl⟩ : Char.ofNat b.toNat = c ∧ 1 = n := by simpa using h
    refine ⟨[], r, ?_, rfl, rfl⟩
    rw [encodeChar, toNat_ofNat_of_valid (by omega), if_pos hone, ofNat_eq rfl]
  · unfold lead? at h
    simp only at h
    split_ifs at h <;> dsimp only at h
    · exact begins_two (by omega) (by omega) le_rfl le_rfl h
    · exact begins_three (by omega) (by omega) (by omega) (by omega) (by omega) (by omega) h
    · exact begins_three (by omega) (by omega) (by omega) (by omega) (by omega) (by omega) h
    · exact begins_three (by omega) (by omega) (by omega) (by omega) (by omega) (by omega) h
    · exact begins_four (by omega) (by omega) (by omega) (by omega) (by omega) (by omega) h
    · exact begins_four (by omega) (by omega) (by omega) (by omega) (by omega) (by omega) h
    · exact begins_four (by omega) (by omega) (by omega) (by omega) (by omega) (by omega) h

theorem encode_of_decodeFrom {i : ℕ} {bytes : List UInt8} {s : List Char}
    (h : decodeFrom i 0 bytes = .ok s) : encode s = bytes := by
  induction s generalizing i bytes with
  | nil =>
    cases bytes with
    | nil => rfl
    | cons b r =>
      rw [decodeFrom] at h
      cases hstep : step b r with
      | flaw => simp [hstep] at h
      | char c n =>
        simp only [hstep] at h
        cases hrest : decodeFrom (i + 1) (n - 1) r <;> simp [hrest, Except.map] at h
  | cons c s ih =>
    cases bytes with
    | nil => cases h
    | cons b r =>
      rw [decodeFrom] at h
      cases hstep : step b r with
      | flaw => simp [hstep] at h
      | char c' n =>
        simp only [hstep] at h
        cases hrest : decodeFrom (i + 1) (n - 1) r with
        | error => simp [hrest, Except.map] at h
        | ok s' =>
          obtain ⟨rfl, rfl⟩ : c' = c ∧ s' = s := by simpa [hrest, Except.map] using h
          obtain ⟨bs, r', hc, rfl, rfl⟩ := begins_of_step hstep
          rw [Nat.add_sub_cancel, decodeFrom_skip] at hrest
          rw [encode, List.flatMap_cons, ← encode, hc, ih hrest, List.cons_append]

/-- Bytes are read as a text just if they are its bytes. -/
theorem decode_eq_ok_iff {bytes : List UInt8} {s : List Char} :
    decode bytes = .ok s ↔ bytes = encode s := by
  constructor
  · intro h
    exact (encode_of_decodeFrom h).symm
  · rintro rfl
    exact decode_encode s

end Reading

end Testbed.Text.Utf8
