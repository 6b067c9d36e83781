import Testbed.Proofs.Endpoint.Substitution

/-!
# Values in targets

A value is written into a target with the characters that may stand in every part of an address, and
it can be read back from what is written. All that a target has of its parameter is the value, once
at each placeholder: so targets of different values differ, also where the text around the
placeholders could continue a value.
-/

namespace Testbed

namespace Template

def IsPlain (c : Char) : Prop :=
  'A' ≤ c ∧ c ≤ 'Z' ∨ 'a' ≤ c ∧ c ≤ 'z' ∨ '0' ≤ c ∧ c ≤ '9' ∨ c = '-' ∨ c = '.' ∨ c = '_' ∨ c = '~'

def IsHexDigit (c : Char) : Prop := '0' ≤ c ∧ c ≤ '9' ∨ 'A' ≤ c ∧ c ≤ 'F'

inductive IsEncoded : List Char → Prop where
  | nil : IsEncoded []
  | plain {c : Char} {r : List Char} (hc : IsPlain c) (hr : IsEncoded r) : IsEncoded (c :: r)
  | byte {a b : Char} {r : List Char} (ha : IsHexDigit a) (hb : IsHexDigit b)
    (hr : IsEncoded r) : IsEncoded ('%' :: a :: b :: r)

section Encoding

theorem IsEncoded.append {s t : List Char} (hs : IsEncoded s) (ht : IsEncoded t) :
    IsEncoded (s ++ t) := by
  induction hs with
  | nil => exact ht
  | plain hc _ ih => exact .plain hc ih
  | byte ha hb _ ih => exact .byte ha hb ih

theorem isEncoded_flatMap {α : Type} {f : α → List Char} (hf : ∀ a, IsEncoded (f a))
    (as : List α) : IsEncoded (as.flatMap f) := by
  induction as with
  | nil => exact .nil
  | cons a as ih => exact (hf a).append ih

theorem isPlain_of_isUnreserved {c : Char} (h : Text.Percent.isUnreserved c = true) :
    IsPlain c := by
  have hranges : (c.isUpper || c.isLower || c.isDigit || c == '-' || c == '.' || c == '_' ||
    c == '~') = true := h
  simp only [Bool.or_eq_true, beq_iff_eq, or_assoc] at hranges
  -- The library asks for upper case with one decision, for lower case and digits with two.
  have hbounds {a b n : UInt32} (h : (decide (a ≤ n) && decide (n ≤ b)) = true) : a ≤ n ∧ n ≤ b :=
    (Bool.and_eq_true_iff.mp h).imp of_decide_eq_true of_decide_eq_true
  exact hranges.imp of_decide_eq_true (Or.imp hbounds (Or.imp_left hbounds))

theorem isHexDigit_hexDigit {n : ℕ} (hn : n < 16) : IsHexDigit (Text.Percent.hexDigit n) := by
  unfold IsHexDigit
  interval_cases n <;> decide

theorem isEncoded_encodeByte (b : UInt8) : IsEncoded (Text.Percent.encodeByte b) := by
  have hb : b.toNat < 256 := b.toNat_lt
  exact .byte (isHexDigit_hexDigit (by omega)) (isHexDigit_hexDigit (by omega)) .nil

theorem isEncoded_encodedValue (v : String) : IsEncoded (encodedValue v) := by
  refine isEncoded_flatMap (fun c => ?_) v.toList
  unfold Text.Percent.encodeChar
  split_ifs with hc
  · exact .plain (isPlain_of_isUnreserved hc) .nil
  · exact isEncoded_flatMap isEncoded_encodeByte _

theorem decode_encodedValue (v : String) :
    Text.Utf8.decode (Text.Percent.decode (encodedValue v)) = .ok v.toList := by
  rw [encodedValue, Text.Percent.decode_encode rfl, Text.Utf8.decode_encode]

end Encoding

section Gaps

variable {piece : List Char}

/-- A text with the same value before each of its further gaps. -/
def interleaved (first : List Char) (gaps : List (List Char)) (value : List Char) : List Char :=
  first ++ gaps.flatMap (value ++ ·)

theorem interleaved_cons_nil (first : List Char) (gaps : List (List Char)) (value : List Char) :
    interleaved [] (first :: gaps) value = value ++ interleaved first gaps value := by
  simp [interleaved]

/-- Replacing a piece keeps what is around its occurrences, whatever comes for the piece. -/
theorem exists_gaps_from (hpiece : piece ≠ []) (k : ℕ) (t : List Char) :
    ∃ first gaps, t.drop k = interleaved first gaps piece ∧
      (∀ value, replaceFrom piece value k t = interleaved first gaps value) ∧
      (piece <:+: t.drop k → gaps ≠ []) := by
  induction t generalizing k with
  | nil =>
    refine ⟨[], [], by simp [interleaved], fun value => by cases k <;> rfl, fun h => ?_⟩
    rw [List.drop_nil] at h
    exact absurd (List.infix_nil.mp h) hpiece
  | cons c r ih =>
    cases k with
    | succ k => exact ih k
    | zero =>
      by_cases hprefix : piece <+: c :: r
      · obtain ⟨first, gaps, hdrop, hreplace, -⟩ := ih (piece.length - 1)
        have hrest : (c :: r).drop piece.length = interleaved first gaps piece := by
          obtain ⟨n, hn⟩ := Nat.exists_eq_succ_of_ne_zero (List.length_pos_iff.mpr hpiece).ne'
          rw [hn] at hdrop ⊢
          exact hdrop
        refine ⟨[], first :: gaps, ?_, fun value => ?_, fun _ => List.cons_ne_nil _ _⟩
        · rw [interleaved_cons_nil, ← hrest, List.drop_zero]
          exact (List.prefix_iff_eq_append.mp hprefix).symm
        · rw [replaceFrom, if_pos (List.isPrefixOf_iff_prefix.mpr hprefix), hreplace,
            interleaved_cons_nil]
      · obtain ⟨first, gaps, hdrop, hreplace, hgaps⟩ := ih 0
        refine ⟨c :: first, gaps, ?_, fun value => ?_, fun h => ?_⟩
        · rw [List.drop_zero] at hdrop ⊢
          rw [hdrop]
          rfl
        · rw [replaceFrom, if_neg (by rwa [List.isPrefixOf_iff_prefix]), hreplace]
          rfl
        · exact hgaps ((List.infix_cons_iff.mp h).resolve_left hprefix)

theorem length_interleaved (first : List Char) (gaps : List (List Char)) (value : List Char) :
    (interleaved first gaps value).length =
      first.length + (gaps.length * value.length + (gaps.map List.length).sum) := by
  induction gaps with
  | nil => simp [interleaved]
  | cons gap gaps ih =>
    simp only [interleaved, List.length_append, List.flatMap_cons, List.length_cons,
      List.map_cons, List.sum_cons, Nat.add_mul] at ih ⊢
    omega

/-- If there is a place for a value, different values make different texts. A longer value could
go on as the text behind it does, but then the whole is longer. -/
theorem interleaved_injective {first : List Char} {gaps : List (List Char)} (hgaps : gaps ≠ []) :
    Function.Injective (interleaved first gaps) := by
  intro v w h
  have hlength : v.length = w.length := by
    have hwhole := congrArg List.length h
    rw [length_interleaved, length_interleaved] at hwhole
    exact Nat.eq_of_mul_eq_mul_left (List.length_pos_iff.mpr hgaps) (by omega)
  obtain ⟨gap, gaps, rfl⟩ := List.exists_cons_of_ne_nil hgaps
  simp only [interleaved, List.flatMap_cons, List.append_assoc] at h
  exact (List.append_inj (List.append_cancel_left h) hlength).1

end Gaps

end Template

open Template (IsEncoded encodedValue interleaved placeholder)

/-- A value is written with plain characters and encoded bytes, and can be read back. A target that
is made of a template and a single parameter is the template with the written value in all the
places of the placeholder; if there are any, the target tells the value. -/
theorem Resolver.target_tells_value :
    (∀ v : String, IsEncoded (encodedValue v) ∧
      Text.Utf8.decode (Text.Percent.decode (encodedValue v)) = .ok v.toList) ∧
    ∀ (r : Resolver) (key name : String), placeholder name <:+: r.templateOf key →
      ∃ first gaps, gaps ≠ [] ∧ r.templateOf key = interleaved first gaps (placeholder name) ∧
        (∀ v, (r.resolve key [(name, v)]).toList = interleaved first gaps (encodedValue v)) ∧
        ∀ v w, r.resolve key [(name, v)] = r.resolve key [(name, w)] → v = w := by
  refine ⟨fun v => ⟨Template.isEncoded_encodedValue v, Template.decode_encodedValue v⟩, ?_⟩
  intro r key name h
  have hpiece : placeholder name ≠ [] := List.cons_ne_nil _ _
  obtain ⟨first, gaps, htemplate, hreplace, hgaps⟩ :=
    Template.exists_gaps_from hpiece 0 (r.templateOf key)
  have hresolve (v : String) :
      (r.resolve key [(name, v)]).toList = interleaved first gaps (encodedValue v) := by
    rw [← hreplace]
    exact String.toList_ofList
  refine ⟨first, gaps, hgaps h, htemplate, hresolve, fun v w hvw => ?_⟩
  have hsame := (hresolve v).symm.trans ((congrArg String.toList hvw).trans (hresolve w))
  exact encodedValue_injective (Template.interleaved_injective (hgaps h) hsame)

/-- Two placeholders with a text between them that both values could go on with. -/
theorem Resolver.target_tells_value_repeated :
    let base : Address := ⟨"http", "", "", some (.name "h"), none, .segments [""], none, none⟩
    let r : Resolver := ⟨.default, base⟩
    let key := "\x7bid\x7d1\x7bid\x7d"
    placeholder "id" <:+: r.templateOf key ∧ r.resolve key [("id", "1")] = "111" ∧
      r.resolve key [("id", "é 1")] = "%C3%A9%2011%C3%A9%201" ∧
      ∀ v, r.resolve key [("id", v)] = "111" → v = "1" := by
  intro base r key
  have hkey : r.templateOf key = key.toList := by decide +kernel
  have hplace : placeholder "id" <:+: r.templateOf key := by
    rw [hkey]
    exact ⟨[], "1\x7bid\x7d".toList, by decide⟩
  have hone : r.resolve key [("id", "1")] = "111" := by decide +kernel
  obtain ⟨first, gaps, -, -, -, htells⟩ := Resolver.target_tells_value.2 r key "id" hplace
  exact ⟨hplace, hone, by decide +kernel, fun v hv => htells v "1" (hv.trans hone.symm)⟩

end Testbed
