import Mathlib.Data.List.Induction
import Testbed.Proofs.Plan.Accepted

/-!
# Scalars as test data

A truth value or a number that is the value of a step stands in the text of the plan as a literal.
The step has the characters of the literal if it is a truth value or an integer of 64 bits. Any
other number is read as a binary fraction, which need not be the one nearest to it, and its
characters are only kept where they already are the text of the fraction that is read.
-/

namespace Testbed

open Json

namespace Numeral

variable {n : Numeral} {t : List Char} {ds : List ℕ}

/-- The digits of a number are determined by their value if the first of them is no zero. -/
theorem decimal_natOfDigits {d : ℕ} (hd : 0 < d) (h : AreDigits (d :: ds)) :
    decimal (natOfDigits (d :: ds)) = d :: ds := by
  induction ds using List.reverseRecOn with
  | nil =>
    have hlt : d < 10 := h d List.mem_cons_self
    simp [natOfDigits, decimal, hlt]
  | append_singleton ds e ih =>
    obtain ⟨hds, he⟩ := List.forall_mem_append.mp (List.cons_append ▸ h)
    have he : e < 10 := he e (List.mem_singleton_self e)
    have hih := ih hds
    have hvalue : natOfDigits (d :: (ds ++ [e])) = natOfDigits (d :: ds) * 10 + e := by
      simp [natOfDigits]
    have hpos : 0 < natOfDigits (d :: ds) := by
      by_contra hzero
      rw [Nat.eq_zero_of_not_pos hzero, decimal, if_pos (by decide)] at hih
      exact hd.ne (List.cons.inj hih).1
    rw [hvalue, decimal, if_neg (by omega), show (natOfDigits (d :: ds) * 10 + e) / 10 =
      natOfDigits (d :: ds) by omega, hih]
    simp
    omega

theorem IsWhole.decimal_natOfDigits {w : List Char} (h : IsWhole ds w) :
    decimal (natOfDigits ds) = ds ∧ w = digits ds := by
  cases h with
  | zero => exact ⟨by simp [natOfDigits, decimal], rfl⟩
  | nonzero hd h => exact ⟨Numeral.decimal_natOfDigits hd h, rfl⟩

/-- The text of a number with neither point nor exponent. -/
theorem IsText.of_isIntegral (h : n.IsText t) (hn : n.isIntegral = true) :
    t = signText n.negative ++ digits n.whole ∧ decimal (natOfDigits n.whole) = n.whole := by
  obtain ⟨hfraction, hexponent⟩ : n.fraction = [] ∧ n.exponent = [] := by
    simpa [isIntegral] using hn
  cases h with
  | @parts w f e hw hf he =>
    obtain ⟨hdecimal, rfl⟩ := hw.decimal_natOfDigits
    rw [hfraction] at hf
    rw [hexponent] at he
    cases hf
    generalize n.exponentNegative = down at he
    cases he
    exact ⟨by simp [signText], hdecimal⟩

/-- There is one way to write an integer that is no negative zero. -/
theorem IsText.eq_toString (h : n.IsText t) {i : ℤ} (hi : n.integer? = some i) :
    t = (toString i).toList := by
  obtain ⟨hintegral, hzero, -, hsigned⟩ := integer?_eq_some hi
  obtain ⟨rfl, hdecimal⟩ := h.of_isIntegral hintegral
  unfold signed at hsigned
  rw [toList_toString, signText]
  cases hsign : n.negative with
  | false =>
    rw [hsign, if_neg Bool.false_ne_true] at hsigned
    rw [if_neg Bool.false_ne_true, if_neg (by omega), ← hsigned, Int.natAbs_natCast, hdecimal]
  | true =>
    rw [hsign, if_pos rfl] at hsigned
    have hne : i ≠ 0 := fun h => hzero ⟨hsign, h⟩
    rw [if_pos rfl, if_pos (by omega), ← hsigned, Int.natAbs_neg, Int.natAbs_natCast, hdecimal]

theorem notMem_digits {c : Char} (hc : digit? c = none) (h : AreDigits ds) : c ∉ digits ds := by
  intro hmem
  obtain ⟨d, hd, rfl⟩ := List.mem_map.mp hmem
  rw [digit?_digitChar (h d hd)] at hc
  cases hc

end Numeral

namespace Binary64

def IsPlain (s : List Char) : Prop := ∀ c ∈ s, c.isDigit = true ∨ c = '.'

/-- Digits with a point, or an exponent that has a small mark and a sign. -/
inductive IsFractional : List Char → Prop where
  | point {s : List Char} (h : IsPlain s) (hpoint : '.' ∈ s) : IsFractional s
  | exponent {s : List Char} {sign : Char} {e : ℕ} (h : IsPlain s)
    (hsign : sign = '-' ∨ sign = '+') : IsFractional (s ++ 'e' :: sign :: Nat.toDigits 10 e)

theorem IsFractional.exists_mem {s : List Char} (h : IsFractional s) :
    ∃ c ∈ s, digit? c = none := by
  cases h with
  | point _ hpoint => exact ⟨'.', hpoint, rfl⟩
  | exponent => exact ⟨'e', by simp, rfl⟩

theorem IsPlain.append {s t : List Char} (hs : IsPlain s) (ht : IsPlain t) : IsPlain (s ++ t) :=
  List.forall_mem_append.mpr ⟨hs, ht⟩

theorem isPlain_toDigits (n : ℕ) : IsPlain (Nat.toDigits 10 n) :=
  fun _ hc => .inl (Nat.isDigit_of_mem_toDigits (b := 10) (by decide) (by decide) hc)

theorem isPlain_pointAfter (n : ℕ) {s : List Char} (h : IsPlain s) : IsPlain (pointAfter n s) := by
  intro c hc
  obtain hc | hc := List.mem_append.mp hc
  · exact h c (List.mem_of_mem_take hc)
  · obtain rfl | hc := List.mem_cons.mp hc
    · exact .inr rfl
    · exact h c (List.mem_of_mem_drop hc)

/-- No magnitude is written as an integer. -/
theorem isFractional_text (x : Binary64) : IsFractional x.text := by
  have hdigits := isPlain_toDigits x.shortest.1
  have hpoint (n : ℕ) := isPlain_pointAfter n hdigits
  have hzeros (n : ℕ) : IsPlain (List.replicate n '0') :=
    fun c hc => .inl (by rw [List.eq_of_mem_replicate hc]; decide)
  unfold text
  dsimp only
  split_ifs with _ hone hdown hdown hup hplaces
  · exact .exponent hdigits (.inl rfl)
  · exact .exponent hdigits (.inr rfl)
  · exact .exponent (hpoint 1) (.inl rfl)
  · exact .exponent (hpoint 1) (.inr rfl)
  · have hend : IsPlain ['.', '0'] :=
      List.forall_mem_cons.mpr ⟨.inr rfl, List.forall_mem_singleton.mpr (.inl rfl)⟩
    exact .point ((hdigits.append (hzeros _)).append hend) (by simp)
  · exact .point (hpoint _) (by simp [pointAfter])
  · refine .point (List.forall_mem_cons.mpr ⟨.inl rfl, List.forall_mem_cons.mpr ⟨.inr rfl, ?_⟩⟩)
      (by simp)
    exact (hzeros _).append hdigits

end Binary64

namespace Numeral

variable {n : Numeral} {t : List Char}

/-- A number that spells no integer of 64 bits is read as a binary fraction. -/
theorem value?_of_integer?_eq_none (h : n.integer? = none) :
    n.value? = n.magnitude?.map (.real n.negative) := by
  have hpow : Nat.pow 2 63 = 9223372036854775808 ∧ Nat.pow 2 64 = 18446744073709551616 :=
    ⟨rfl, rfl⟩
  unfold integer? at h
  split_ifs at h with hn
  unfold value? signed InRange at *
  cases hintegral : n.isIntegral <;> cases hsign : n.negative <;>
    simp only [hintegral, hsign, Bool.false_eq_true, if_false, if_true, true_and, false_and,
      not_false_eq_true, Bool.not_true, Bool.not_false, Bool.true_and, Bool.false_and,
      Bool.and_eq_true, decide_eq_true_eq] at hn ⊢
  · rw [if_neg (by omega)]
  · rw [if_neg (by omega)]

/-- No integer is written as the text of a binary fraction. -/
theorem IsText.ne_text (h : n.IsText t) (hn : n.isIntegral = true) (x : Binary64) :
    t ≠ signText n.negative ++ x.text := by
  obtain ⟨rfl, hdecimal⟩ := h.of_isIntegral hn
  intro heq
  have hdigits : AreDigits n.whole := by
    rw [← hdecimal]
    exact areDigits_decimal _
  obtain ⟨c, hmem, hc⟩ := x.isFractional_text.exists_mem
  rw [← List.append_cancel_left heq] at hmem
  exact notMem_digits hc hdigits hmem

end Numeral

namespace Plan

/-- The literals that the step of a plan has as its test data just as they are written. A fraction
is one of them if it is the text of the number that is read from it. -/
inductive IsKept : Json → List Char → Prop where
  | bool (b : Bool) (t : List Char) : IsKept (.bool b) t
  | integer {n : Numeral} {i : ℤ} (h : n.integer? = some i) (t : List Char) : IsKept (.number n) t
  | fraction {n : Numeral} {x : Binary64} (hn : n.isIntegral = false) (h : n.magnitude? = some x) :
    IsKept (.number n) (signText n.negative ++ x.text)

section Steps

variable {n : Numeral} {j : Json} {t : List Char} {d : String}

theorem data_number_eq_ok_iff : data (.number n) = .ok d ↔ ∃ v, n.value? = some v ∧ d = v.text := by
  unfold data datum readNumber
  cases n.value? with
  | none => simp [Except.map]
  | some v => simp [Except.map, stepData, Datum.text, Datum.chars, eq_comm]

/-- The data of a scalar are its literal if and only if this is one of those that are kept. -/
theorem toList_eq_iff_isKept (ht : IsLiteral j t) (hd : data j = .ok d) :
    d.toList = t ↔ IsKept j t := by
  cases ht with
  | true =>
    obtain rfl := Except.ok.inj hd
    exact iff_of_true rfl (.bool _ _)
  | false =>
    obtain rfl := Except.ok.inj hd
    exact iff_of_true rfl (.bool _ _)
  | @number n t ht =>
    obtain ⟨v, hv, rfl⟩ := data_number_eq_ok_iff.mp hd
    cases hi : n.integer? with
    | some i =>
      rw [Numeral.value?_of_integer? hi] at hv
      obtain rfl := Option.some.inj hv
      exact iff_of_true (ht.eq_toString hi).symm (.integer hi t)
    | none =>
      rw [Numeral.value?_of_integer?_eq_none hi] at hv
      obtain ⟨x, hx, rfl⟩ := Option.map_eq_some_iff.mp hv
      have htext : (Number.real n.negative x).text.toList = signText n.negative ++ x.text := by
        cases hsign : n.negative <;> simp [Number.text, signText]
      rw [htext]
      constructor
      · rintro rfl
        cases hintegral : n.isIntegral with
        | true => exact absurd rfl (ht.ne_text hintegral x)
        | false => exact .fraction hintegral hx
      · intro hkept
        cases hkept with
        | integer h => rw [hi] at h; cases h
        | @fraction _ y _ hy => rw [Option.some.inj (hx.symm.trans hy)]

theorem data_of_isStepPlace [Wording] {s : String} {p : Plan} (h : ofText s = .ok p) {i : ℕ}
    {x : Step} (hx : p.steps[i]? = some x) {before after : List Char}
    (hs : s.toList = before ++ (t ++ after))
    (hplace : IsStepPlace p.testCase i x.phrase before after) (ht : IsText j t) :
    data j = .ok x.data := by
  obtain ⟨f, steps₁, steps₂, hplace, rfl, hholds⟩ := hplace
  obtain ⟨-, hall⟩ := (ofText_eq_ok_iff (hholds j) (hs ▸ hplace j t ht)).mp h
  obtain ⟨hi, hget⟩ := List.getElem?_eq_some_iff.mp hx
  have hstep := hall.get (by simp) hi
  simp only [List.get_eq_getElem, hget, List.getElem_append_right le_rfl, Nat.sub_self,
    List.getElem_cons_zero] at hstep
  exact hstep.2

end Steps

def beforeOnly (phrase : String) : List Char :=
  '\x7b' :: (quote "current - bdd steps" ++ ':' :: '\x7b' :: (quote phrase ++ [':']))

theorem isStepPlace_beforeOnly (phrase : String) :
    IsStepPlace none 0 phrase (beforeOnly phrase) ['\x7d', '\x7d'] := by
  let plan (k : Json) : Json :=
    .object (named [("current - bdd steps", .object (named [(phrase, k)]) true)]) true
  refine ⟨plan, [], [], fun k t ht => ?_, rfl, fun k => .members rfl .absent rfl⟩
  have hgap := isGap_nil
  have hplan := IsText.object (.last hgap (isString_quote "current - bdd steps") hgap
    (.object (.last hgap (isString_quote phrase) hgap ht)))
  simpa [beforeOnly, plan, named] using hplan

/-- Every step of a plan that is read has its value at a place of the text. The step has the data of
the value, whatever literal stands there, and these are the characters of the literal if and only if
it is a truth value, an integer of 64 bits, or the text of the fraction that is read from it. -/
theorem literal_kept_iff [Wording] {s : String} {p : Plan} (h : ofText s = .ok p) {i : ℕ}
    {x : Step} (hx : p.steps[i]? = some x) :
    (∃ before t after j, s.toList = before ++ (t ++ after) ∧ IsText j t ∧
      IsStepPlace p.testCase i x.phrase before after ∧ data j = .ok x.data ∧
      ((∃ b, j = .bool b) ∨ (∃ n, j = .number n) → IsLiteral j t)) ∧
    ∀ before t after j, s.toList = before ++ (t ++ after) → IsLiteral j t →
      IsStepPlace p.testCase i x.phrase before after →
      data j = .ok x.data ∧ (x.data.toList = t ↔ IsKept j t) := by
  constructor
  · obtain ⟨f, j, steps₁, steps₂, hplace, hlength, hholds⟩ := exists_stepPlace h hx
    by_cases hj : (∃ b, j = .bool b) ∨ ∃ n, j = .number n
    · obtain ⟨before, t, after, hs, ht, hplace⟩ := hplace.exists_literal hj
      have hstep : IsStepPlace p.testCase i x.phrase before after :=
        ⟨f, steps₁, steps₂, hplace, hlength, hholds⟩
      exact ⟨before, t, after, j, hs, ht.isText, hstep,
        data_of_isStepPlace h hx hs hstep ht.isText, fun _ => ht⟩
    · obtain ⟨before, t, after, hs, ht, hplace⟩ := hplace
      have hstep : IsStepPlace p.testCase i x.phrase before after :=
        ⟨f, steps₁, steps₂, hplace, hlength, hholds⟩
      exact ⟨before, t, after, j, hs, ht, hstep, data_of_isStepPlace h hx hs hstep ht,
        fun h => absurd h hj⟩
  · intro before t after j hs ht hstep
    have hd := data_of_isStepPlace h hx hs hstep ht.isText
    exact ⟨hd, toList_eq_iff_isKept ht hd⟩

/-- A number with a large exponent is kept as it is if the exponent has its sign. -/
theorem literal_kept_iff_exponent :
    let s := "\x7b\"current - bdd steps\":\x7b\"When the user enters the username\":" ++
      "-1e+30\x7d\x7d"
    let phrase := "When the user enters the username"
    let j : Json := .number ⟨true, [1], [], false, [3, 0]⟩
    ofText s = .ok ⟨none, [⟨phrase, "-1e+30"⟩]⟩ ∧
      s.toList = beforeOnly phrase ++ ("-1e+30".toList ++ ['\x7d', '\x7d']) ∧
      IsStepPlace none 0 phrase (beforeOnly phrase) ['\x7d', '\x7d'] ∧
      IsLiteral j "-1e+30".toList ∧ IsKept j "-1e+30".toList := by
  intro s phrase j
  have hread : ofText s = .ok ⟨none, [⟨phrase, "-1e+30"⟩]⟩ := by decide +kernel
  have hs : s.toList = beforeOnly phrase ++ ("-1e+30".toList ++ ['\x7d', '\x7d']) := by
    decide +kernel
  have hliteral : IsLiteral j "-1e+30".toList :=
    .number (.parts (n := ⟨true, [1], [], false, [3, 0]⟩)
      (.nonzero (by decide) (by simp [Numeral.AreDigits])) .none
      (.some (.inl rfl) .plus (by simp [Numeral.AreDigits])))
  have hplace := isStepPlace_beforeOnly phrase
  have hkept := ((literal_kept_iff hread (i := 0) rfl).2 _ _ _ j hs hliteral hplace).2.mp rfl
  exact ⟨hread, hs, hplace, hliteral, hkept⟩

/-- A fraction with a zero at its end is not the data of its step: the step types a shorter text. -/
theorem zero_at_end_not_kept :
    let s := "\x7b\"current - bdd steps\":\x7b\"When the user enters the username\":" ++
      "1.50\x7d\x7d"
    let phrase := "When the user enters the username"
    ofText s = .ok ⟨none, [⟨phrase, "1.5"⟩]⟩ ∧
      s.toList = beforeOnly phrase ++ ("1.50".toList ++ ['\x7d', '\x7d']) ∧
      IsStepPlace none 0 phrase (beforeOnly phrase) ['\x7d', '\x7d'] ∧
      IsLiteral (.number ⟨false, [1], [5, 0], false, []⟩) "1.50".toList ∧ "1.5" ≠ "1.50" := by
  intro s phrase
  have hliteral := Numeral.IsText.parts (n := ⟨false, [1], [5, 0], false, []⟩)
    (.nonzero (by decide) (by simp [Numeral.AreDigits])) (.some (by simp [Numeral.AreDigits])) .none
  exact ⟨by decide +kernel, by decide +kernel, isStepPlace_beforeOnly phrase, .number hliteral,
    by decide⟩

end Plan

end Testbed
