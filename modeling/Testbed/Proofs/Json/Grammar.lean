import Mathlib.Order.Nat
import Testbed.Json.Datum

/-!
# The grammar of JSON texts

Which texts spell a tree, apart from any reader: space may stand around every token, a character of
a string may be written as an escape and a character beyond the basic plane as a pair of them, and
a number may have its mark and its sign in either way.
-/

namespace Testbed

namespace Json

def IsGap (s : List Char) : Prop := ∀ c ∈ s, isSpace c = true

theorem isGap_nil : IsGap [] := by simp [IsGap]

/-- What one piece of a string stands for: a character, or half of a surrogate pair. -/
inductive Code where
  | char (c : Char)
  | leading (n : ℕ)
  | trailing (n : ℕ)

namespace Code

def ofNat (n : ℕ) : Code :=
  if 0xD800 ≤ n ∧ n ≤ 0xDBFF then .leading n
  else if 0xDC00 ≤ n ∧ n ≤ 0xDFFF then .trailing n
  else .char (Char.ofNat n)

/-- The characters that the codes of a string stand for; there are none if a surrogate lacks its
partner. -/
def join : List Code → Option (List Char)
  | [] => some []
  | .char c :: r => (join r).map (c :: ·)
  | .leading h :: .trailing t :: r =>
    (join r).map (Char.ofNat (0x10000 + (h - 0xD800) * 0x400 + (t - 0xDC00)) :: ·)
  | .leading _ :: _ | .trailing _ :: _ => none

end Code

inductive IsPiece : Code → List Char → Prop where
  | plain {c : Char} (hquote : c ≠ '"') (hbackslash : c ≠ '\\') (hcontrol : 0x20 ≤ c.toNat) :
    IsPiece (.char c) [c]
  | short {letter c : Char} (h : escaped? letter = some c) : IsPiece (.char c) ['\\', letter]
  | unit {a b c d : Char} {w x y z : ℕ} (ha : hexDigit? a = some w) (hb : hexDigit? b = some x)
    (hc : hexDigit? c = some y) (hd : hexDigit? d = some z) :
    IsPiece (.ofNat (((w * 16 + x) * 16 + y) * 16 + z)) ['\\', 'u', a, b, c, d]

inductive ArePieces : List Code → List Char → Prop where
  | nil : ArePieces [] []
  | cons {x : Code} {xs : List Code} {t r : List Char} (h : IsPiece x t) (hr : ArePieces xs r) :
    ArePieces (x :: xs) (t ++ r)

inductive IsString : Option String → List Char → Prop where
  | quoted {xs : List Code} {t : List Char} (h : ArePieces xs t) :
    IsString ((Code.join xs).map String.ofList) ('"' :: (t ++ ['"']))

end Json

namespace Numeral

def AreDigits (ds : List ℕ) : Prop := ∀ d ∈ ds, d < 10

def digits (ds : List ℕ) : List Char := ds.map Nat.digitChar

inductive IsWhole : List ℕ → List Char → Prop where
  | zero : IsWhole [0] ['0']
  | nonzero {d : ℕ} {ds : List ℕ} (hd : 0 < d) (h : AreDigits (d :: ds)) :
    IsWhole (d :: ds) (digits (d :: ds))

inductive IsFraction : List ℕ → List Char → Prop where
  | none : IsFraction [] []
  | some {d : ℕ} {ds : List ℕ} (h : AreDigits (d :: ds)) :
    IsFraction (d :: ds) ('.' :: digits (d :: ds))

inductive IsSign : Bool → List Char → Prop where
  | none : IsSign false []
  | plus : IsSign false ['+']
  | minus : IsSign true ['-']

inductive IsExponent : Bool → List ℕ → List Char → Prop where
  | none : IsExponent false [] []
  | some {negative : Bool} {mark : Char} {sign : List Char} {d : ℕ} {ds : List ℕ}
    (hmark : mark = 'e' ∨ mark = 'E') (hsign : IsSign negative sign) (h : AreDigits (d :: ds)) :
    IsExponent negative (d :: ds) (mark :: (sign ++ digits (d :: ds)))

inductive IsText (n : Numeral) : List Char → Prop where
  | parts {w f e : List Char} (hw : IsWhole n.whole w) (hf : IsFraction n.fraction f)
    (he : IsExponent n.exponentNegative n.exponent e) :
    IsText n ((if n.negative then ['-'] else []) ++ (w ++ (f ++ e)))

end Numeral

namespace Json

mutual

inductive IsText : Json → List Char → Prop where
  | spaced {j : Json} {g t g' : List Char} (hg : IsGap g) (h : IsText j t) (hg' : IsGap g') :
    IsText j (g ++ (t ++ g'))
  | null : IsText .null ['n', 'u', 'l', 'l']
  | true : IsText (.bool true) ['t', 'r', 'u', 'e']
  | false : IsText (.bool false) ['f', 'a', 'l', 's', 'e']
  | number {n : Numeral} {t : List Char} (h : n.IsText t) : IsText (.number n) t
  | string {text : Option String} {t : List Char} (h : IsString text t) : IsText (.string text) t
  | emptyArray {g : List Char} (hg : IsGap g) : IsText (.array [] true) ('[' :: (g ++ [']']))
  | array {items : List Json} {t : List Char} (h : AreItems items t) :
    IsText (.array items true) ('[' :: (t ++ [']']))
  | emptyObject {g : List Char} (hg : IsGap g) :
    IsText (.object [] true) ('\x7b' :: (g ++ ['\x7d']))
  | object {members : List (Option String × Json)} {t : List Char} (h : AreMembers members t) :
    IsText (.object members true) ('\x7b' :: (t ++ ['\x7d']))

inductive AreItems : List Json → List Char → Prop where
  | last {j : Json} {t : List Char} (h : IsText j t) : AreItems [j] t
  | cons {j : Json} {items : List Json} {t r : List Char} (h : IsText j t)
    (hr : AreItems items r) : AreItems (j :: items) (t ++ ',' :: r)

inductive AreMembers : List (Option String × Json) → List Char → Prop where
  | last {key : Option String} {j : Json} {g k g' t : List Char} (hg : IsGap g)
    (hk : IsString key k) (hg' : IsGap g') (h : IsText j t) :
    AreMembers [(key, j)] (g ++ (k ++ (g' ++ ':' :: t)))
  | cons {key : Option String} {j : Json} {members : List (Option String × Json)}
    {g k g' t r : List Char} (hg : IsGap g) (hk : IsString key k) (hg' : IsGap g')
    (h : IsText j t) (hr : AreMembers members r) :
    AreMembers ((key, j) :: members) (g ++ (k ++ (g' ++ ':' :: (t ++ ',' :: r))))

end

section Quoting

theorem hexDigit?_digitChar {d : ℕ} (h : d < 16) : hexDigit? (Nat.digitChar d) = some d := by
  revert d
  decide

/-- A character as it is escaped in compact texts. -/
theorem isPiece_escapeChar (c : Char) : IsPiece (.char c) (escapeChar c) := by
  unfold escapeChar
  have hc : Char.ofNat c.toNat = c := Char.ofNat_toNat c
  have hshort {letter d : Char} (h : escaped? letter = some d) (hd : c = d) :
      IsPiece (.char c) ['\\', letter] := hd ▸ .short h
  simp only
  split_ifs with hquote hbackslash h8 h12 hlf hcr htab hcontrol
  · exact hshort rfl hquote
  · exact hshort rfl hbackslash
  · exact hshort rfl (by rw [← hc, h8])
  · exact hshort rfl (by rw [← hc, h12])
  · exact hshort rfl hlf
  · exact hshort rfl hcr
  · exact hshort rfl htab
  · have hcode : Code.char c =
        .ofNat (((0 * 16 + 0) * 16 + c.toNat / 16) * 16 + c.toNat % 16) := by
      have hvalue : ((0 * 16 + 0) * 16 + c.toNat / 16) * 16 + c.toNat % 16 = c.toNat := by omega
      rw [hvalue, Code.ofNat, if_neg (by omega), if_neg (by omega), hc]
    rw [hcode]
    exact .unit rfl rfl (hexDigit?_digitChar (by omega)) (hexDigit?_digitChar (by omega))
  · exact .plain hquote hbackslash (Nat.le_of_not_lt hcontrol)

theorem join_map_char (s : List Char) : Code.join (s.map .char) = some s := by
  induction s with
  | nil => rfl
  | cons c s ih => rw [List.map_cons, Code.join, ih]; rfl

/-- Every text has a spelling as a string, the one of compact texts. -/
theorem isString_quote (s : String) : IsString (some s) (quote s) := by
  have hpieces (cs : List Char) : ArePieces (cs.map .char) (cs.flatMap escapeChar) := by
    induction cs with
    | nil => exact .nil
    | cons c cs ih => exact .cons (isPiece_escapeChar c) ih
  have hstring := IsString.quoted (hpieces s.toList)
  rwa [join_map_char, Option.map_some, String.ofList_toList] at hstring

end Quoting

end Json

end Testbed
