import Testbed.Proofs.Json.Record

/-!
# The values of JSON trees

What a tree stands for, apart from any reader: an object is the map that its members make, in which
the last member of a name has the final word, and the numbers are integers of 64 bits. A text is
compact if all its space is inside its strings.
-/

namespace Testbed

namespace Numeral

def InRange (i : ℤ) : Prop := -9223372036854775808 ≤ i ∧ i < 18446744073709551616

instance (i : ℤ) : Decidable (InRange i) := inferInstanceAs (Decidable (_ ∧ _))

def signed (n : Numeral) : ℤ :=
  if n.negative then -natOfDigits n.whole else natOfDigits n.whole

/-- The integer that a number spells. A negative zero is none, nor is a number with a point or an
exponent. -/
def integer? (n : Numeral) : Option ℤ :=
  if n.isIntegral ∧ ¬(n.negative ∧ n.signed = 0) ∧ InRange n.signed then some n.signed else none

def decimal (n : ℕ) : List ℕ :=
  if n < 10 then [n] else decimal (n / 10) ++ [n % 10]
termination_by n

def ofInt (i : ℤ) : Numeral := ⟨decide (i < 0), decimal i.natAbs, [], false, []⟩

section Integers

variable {n : Numeral} {i : ℤ}

theorem integer?_eq_some (h : n.integer? = some i) :
    n.isIntegral = true ∧ ¬(n.negative = true ∧ i = 0) ∧ InRange i ∧ n.signed = i := by
  unfold integer? at h
  split_ifs at h with hn
  obtain rfl := Option.some.inj h
  exact ⟨hn.1, hn.2.1, hn.2.2, rfl⟩

/-- A number that spells an integer is read as that integer. -/
theorem value?_of_integer? (h : n.integer? = some i) : n.value? = some (.integer i) := by
  obtain ⟨hintegral, hzero, ⟨hlow, hhigh⟩, rfl⟩ := integer?_eq_some h
  have hpow : Nat.pow 2 63 = 9223372036854775808 ∧ Nat.pow 2 64 = 18446744073709551616 :=
    ⟨rfl, rfl⟩
  unfold value?
  cases hsign : n.negative with
  | false =>
    have hvalue : n.signed = natOfDigits n.whole := by simp [signed, hsign]
    have hfits : natOfDigits n.whole < Nat.pow 2 64 := by omega
    simp [hintegral, hfits, hvalue]
  | true =>
    have hvalue : n.signed = -natOfDigits n.whole := by simp [signed, hsign]
    have hfits : 0 < natOfDigits n.whole ∧ natOfDigits n.whole ≤ Nat.pow 2 63 := by
      simp only [hsign, true_and] at hzero
      omega
    simp [hintegral, hfits, hvalue]

theorem natOfDigits_decimal (n : ℕ) : natOfDigits (decimal n) = n := by
  fun_induction decimal with
  | case1 n h => simp [natOfDigits]
  | case2 n h ih =>
    rw [natOfDigits, List.foldl_append, ← natOfDigits, ih]
    simp only [List.foldl_cons, List.foldl_nil]
    omega

theorem digits_decimal (n : ℕ) : digits (decimal n) = Nat.toDigits 10 n := by
  fun_induction decimal with
  | case1 n h => rw [Nat.toDigits_of_lt_base h]; rfl
  | case2 n h ih =>
    rw [Nat.toDigits_eq_if (by decide), if_neg h, ← ih]
    simp [digits]

theorem areDigits_decimal (n : ℕ) : AreDigits (decimal n) := by
  fun_induction decimal with
  | case1 n h => simpa [AreDigits] using h
  | case2 n h ih => exact List.forall_mem_append.mpr ⟨ih, by simp; omega⟩

theorem exists_decimal_eq_cons {n : ℕ} (h : 0 < n) : ∃ d ds, decimal n = d :: ds ∧ 0 < d := by
  fun_induction decimal with
  | case1 n _ => exact ⟨n, [], rfl, h⟩
  | case2 n _ ih =>
    obtain ⟨d, ds, hds, hd⟩ := ih (by omega)
    exact ⟨d, ds ++ [n % 10], by rw [hds, List.cons_append], hd⟩

theorem isWhole_decimal (n : ℕ) : IsWhole (decimal n) (digits (decimal n)) := by
  obtain rfl | hpos := Nat.eq_zero_or_pos n
  · rw [decimal]
    exact .zero
  · obtain ⟨d, ds, hds, hd⟩ := exists_decimal_eq_cons hpos
    have hdigits := areDigits_decimal n
    rw [hds] at hdigits ⊢
    exact .nonzero hd hdigits

theorem toList_toString (i : ℤ) :
    (toString i).toList = (if i < 0 then ['-'] else []) ++ digits (decimal i.natAbs) := by
  change i.repr.toList = _
  rw [Int.repr_eq_if, digits_decimal]
  by_cases hi : i < 0
  · have habs : (-i).toNat = i.natAbs := by omega
    rw [if_neg (by omega), if_pos hi, habs, Nat.repr_eq_ofList_toDigits]
    simp
  · have habs : i.toNat = i.natAbs := by omega
    rw [if_pos (by omega), if_neg hi, habs, Nat.repr_eq_ofList_toDigits]
    simp

theorem isText_ofInt (i : ℤ) : (ofInt i).IsText (toString i).toList := by
  have hparts := IsText.parts (n := ofInt i) (isWhole_decimal i.natAbs) .none .none
  rw [toList_toString]
  simpa [ofInt] using hparts

theorem integer?_ofInt (h : InRange i) : (ofInt i).integer? = some i := by
  have hvalue : (ofInt i).signed = i := by
    simp only [signed, ofInt, natOfDigits_decimal, decide_eq_true_eq]
    split_ifs <;> omega
  unfold integer?
  rw [hvalue, if_pos]
  refine ⟨rfl, ?_, h⟩
  simp only [ofInt, decide_eq_true_eq]
  omega

end Integers

end Numeral

namespace Json

/-- A value without the accidents of its spelling. -/
inductive Value where
  | null
  | bool (b : Bool)
  | integer (i : ℤ)
  | string (s : String)
  | array (items : List Value)
  | object (member : String → Option Value)

mutual

/-- The value of a tree, if every string is text and every number an integer of 64 bits. -/
def value? : Json → Option Value
  | .null => some .null
  | .bool b => some (.bool b)
  | .number n => n.integer?.map .integer
  | .string text => text.map .string
  | .array items closed => if closed then (valueItems? items).map .array else none
  | .object members closed => if closed then (valueMembers? members).map .object else none
  | .broken => none

def valueItems? : List Json → Option (List Value)
  | [] => some []
  | j :: r => do
    let v ← j.value?
    let vs ← valueItems? r
    return v :: vs

/-- The map that members make. What comes later has the final word. -/
def valueMembers? : List (Option String × Json) → Option (String → Option Value)
  | [] => some fun _ => none
  | (key, j) :: r => do
    let key ← key
    let v ← j.value?
    let f ← valueMembers? r
    return fun name => (f name).or (if name = key then some v else none)

end

mutual

def height : Json → ℕ
  | .array items _ => heightItems items + 1
  | .object members _ => heightMembers members + 1
  | _ => 0

def heightItems : List Json → ℕ
  | [] => 0
  | j :: r => max j.height (heightItems r)

def heightMembers : List (Option String × Json) → ℕ
  | [] => 0
  | (_, j) :: r => max j.height (heightMembers r)

end

/-- The names in every object of the tree are strictly increasing, code point by code point. -/
inductive IsOrdered : Json → Prop where
  | null : IsOrdered .null
  | bool (b : Bool) : IsOrdered (.bool b)
  | number (n : Numeral) : IsOrdered (.number n)
  | string (text : Option String) : IsOrdered (.string text)
  | array {items : List Json} {closed : Bool} (h : ∀ j ∈ items, j.IsOrdered) :
    IsOrdered (.array items closed)
  | object {ms : List (String × Json)} {closed : Bool} (hnames : (ms.map Prod.fst).Pairwise (· < ·))
    (h : ∀ m ∈ ms, m.2.IsOrdered) : IsOrdered (.object (named ms) closed)

mutual

def outside : List Char → List Char
  | [] => []
  | c :: r => if c = '"' then inside r else c :: outside r

def inside : List Char → List Char
  | [] => []
  | '\\' :: _ :: r => inside r
  | c :: r => if c = '"' then outside r else inside r

end

/-- No space stands between the tokens of a text, nor around them. -/
def IsCompact (t : List Char) : Prop := ∀ c ∈ outside t, isSpace c = false

section Values

variable {j : Json} {r : List Json} {members : List (Option String × Json)}

theorem valueItems?_cons {vs : List Value} (h : valueItems? (j :: r) = some vs) :
    ∃ v ws, j.value? = some v ∧ valueItems? r = some ws ∧ vs = v :: ws := by
  simp only [valueItems?, Option.pure_def, Option.bind_eq_bind, Option.bind_eq_some_iff,
    Option.some.injEq] at h
  obtain ⟨v, hv, ws, hws, rfl⟩ := h
  exact ⟨v, ws, hv, hws, rfl⟩

theorem valueMembers?_cons {key : Option String} {g : String → Option Value}
    (h : valueMembers? ((key, j) :: members) = some g) :
    ∃ k v f, key = some k ∧ j.value? = some v ∧ valueMembers? members = some f ∧
      g = fun name => (f name).or (if name = k then some v else none) := by
  simp only [valueMembers?, Option.pure_def, Option.bind_eq_bind, Option.bind_eq_some_iff,
    Option.some.injEq] at h
  obtain ⟨k, hk, v, hv, f, hf, rfl⟩ := h
  exact ⟨k, v, f, hk, hv, hf, rfl⟩

end Values

section Strings

variable {t : List Char}

theorem inside_cons {c : Char} (hquote : c ≠ '"') (hbackslash : c ≠ '\\') (r : List Char) :
    inside (c :: r) = inside r := by
  rw [inside, if_neg hquote]
  exact fun _ _ h _ => hbackslash h

theorem ne_of_hexDigit? {c : Char} {d : ℕ} (h : hexDigit? c = some d) : c ≠ '"' ∧ c ≠ '\\' := by
  constructor <;> rintro rfl <;> cases h

theorem inside_piece {x : Code} (h : IsPiece x t) (r : List Char) : inside (t ++ r) = inside r := by
  cases h with
  | plain hquote hbackslash _ => exact inside_cons hquote hbackslash r
  | short _ => rw [List.cons_append, List.cons_append, List.nil_append, inside]
  | unit ha hb hc hd =>
    have hskip {c : Char} {d : ℕ} (h : hexDigit? c = some d) (r : List Char) :
        inside (c :: r) = inside r := inside_cons (ne_of_hexDigit? h).1 (ne_of_hexDigit? h).2 r
    simp only [List.cons_append, List.nil_append]
    rw [inside, hskip ha, hskip hb, hskip hc, hskip hd]

/-- Nothing of a string is outside of it. -/
theorem outside_string {text : Option String} (h : IsString text t) (r : List Char) :
    outside (t ++ r) = outside r := by
  obtain @⟨xs, t, hpieces⟩ := h
  have hinside : inside (t ++ '"' :: r) = outside r := by
    induction hpieces with
    | nil => rw [List.nil_append, inside, if_pos rfl]; simp
    | cons h _ ih => rw [List.append_assoc, inside_piece h, ih]
  rw [List.cons_append, List.append_assoc, List.singleton_append, outside, if_pos rfl, hinside]

end Strings

end Json

end Testbed
