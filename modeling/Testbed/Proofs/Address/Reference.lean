import Testbed.Address.Reader
import Testbed.Proofs.Text.Lines
import Testbed.Proofs.Text.Percent

/-!
# References

How a reference without a scheme is read against a base. If it is made of encoded data and slashes,
its pieces are put below the base as they stand. Only one or two dots are steps, and a piece of
encoded data is a step just if the data themselves are one or two dots.
-/

namespace Testbed.Address

open Text (cut splitOnce)
open Text.Percent (decode encode isUnreserved)

def IsData (c : Char) : Prop := isUnreserved c = true ∨ c = '%'

instance (c : Char) : Decidable (IsData c) := inferInstanceAs (Decidable (_ ∨ _))

section Characters

variable {c : Char}

theorem toNat_lt_of_isUnreserved (h : isUnreserved c = true) : c.toNat < 128 := by
  have hranges : (c.isUpper || c.isLower || c.isDigit || c == '-' || c == '.' || c == '_' ||
    c == '~') = true := h
  simp only [Bool.or_eq_true, beq_iff_eq] at hranges
  rcases hranges with (((((h | h) | h) | rfl) | rfl) | rfl) | rfl
  · have hle : c.toNat ≤ 0x5A := (of_decide_eq_true h).2
    omega
  · have hle : c.toNat ≤ 0x7A := of_decide_eq_true (Bool.and_eq_true_iff.mp h).2
    omega
  · have hle : c.toNat ≤ 0x39 := of_decide_eq_true (Bool.and_eq_true_iff.mp h).2
    omega
  all_goals decide

/-- Data stand in a path as they are and separate nothing. -/
theorem IsData.plain (h : IsData c) :
    keepsInPath c = true ∧ 0x20 < c.toNat ∧ c ∉ ['/', '\\', '?', '#', '\x7b'] := by
  have hlt : c.toNat < 128 := h.elim toNat_lt_of_isUnreserved fun e => e ▸ by decide
  have hascii : ∀ n : Fin 128, IsData (.ofNat n) → keepsInPath (.ofNat n) = true ∧
      0x20 < (Char.ofNat n).toNat ∧ Char.ofNat n ∉ ['/', '\\', '?', '#', '\x7b'] := by
    decide +kernel
  have hc := hascii ⟨c.toNat, hlt⟩
  simp only [Char.ofNat_toNat] at hc
  exact hc h

theorem IsData.ne (h : IsData c) : c ≠ '/' ∧ c ≠ '\\' ∧ c ≠ '?' ∧ c ≠ '#' ∧ c ≠ '\x7b' := by
  simpa using h.plain.2.2

theorem IsData.isSlash_eq (h : IsData c) (special : Bool) : isSlash special c = false := by
  simp [isSlash, h.ne.1, h.ne.2.1]

theorem isData_of_all {s : List Char} (h : (s.all fun c => decide (IsData c)) = true) :
    ∀ c ∈ s, IsData c := by
  simpa using h

theorem isData_of_mem_encode {s : List Char} (h : c ∈ encode isUnreserved s) : IsData c :=
  Text.Percent.mem_encode h

/-- What a query keeps is printable and does not end it. -/
theorem of_keepsInQuery (h : keepsInQuery true c = true) : 0x20 < c.toNat ∧ c ≠ '#' := by
  simp only [keepsInQuery, if_true, keepsAllBut, Bool.and_eq_true, decide_eq_true_eq] at h
  refine ⟨h.1.1, ?_⟩
  rintro rfl
  exact absurd h.2 (by decide)

end Characters

section Dots

variable {s : List Char}

theorem decode_of_isSingleDot (h : isSingleDot s = true) : decode s = [0x2E] := by
  have hlower : s.map Char.toLower = ['.'] ∨ s.map Char.toLower = ['%', '2', 'e'] := by
    simpa [isSingleDot, Text.asciiLower, ← String.toList_inj] using h
  obtain ⟨s', hs', hdecode⟩ := Text.Percent.exists_decode_of_dot hlower
  obtain rfl := List.map_eq_nil_iff.mp hs'
  exact hdecode

theorem decode_of_isDoubleDot (h : isDoubleDot s = true) : decode s = [0x2E, 0x2E] := by
  have hlower : ∃ r, (s.map Char.toLower = '.' :: r ∨ s.map Char.toLower = '%' :: '2' :: 'e' :: r) ∧
      (r = ['.'] ∨ r = ['%', '2', 'e']) := by
    have hforms : s.map Char.toLower = ['.', '.'] ∨ s.map Char.toLower = ['.', '%', '2', 'e'] ∨
        s.map Char.toLower = ['%', '2', 'e', '.'] ∨
        s.map Char.toLower = ['%', '2', 'e', '%', '2', 'e'] := by
      simpa [isDoubleDot, Text.asciiLower, ← String.toList_inj] using h
    rcases hforms with h | h | h | h
    · exact ⟨_, .inl h, .inl rfl⟩
    · exact ⟨_, .inl h, .inr rfl⟩
    · exact ⟨_, .inr h, .inl rfl⟩
    · exact ⟨_, .inr h, .inr rfl⟩
  obtain ⟨r, hfirst, hr⟩ := hlower
  obtain ⟨s', rfl, hdecode⟩ := Text.Percent.exists_decode_of_dot hfirst
  obtain ⟨s'', hs'', hdecode'⟩ := Text.Percent.exists_decode_of_dot hr
  obtain rfl := List.map_eq_nil_iff.mp hs''
  rw [hdecode, hdecode']
  rfl

/-- Encoded data are a step up or nowhere just if they are dots before they are encoded. -/
theorem isSingleDot_encode (s : List Char) :
    isSingleDot (encode isUnreserved s) = true ↔ s = ['.'] := by
  constructor
  · intro h
    have hbytes := decode_of_isSingleDot h
    rw [Text.Percent.decode_encode rfl] at hbytes
    exact Text.Utf8.encode_injective hbytes
  · rintro rfl
    rfl

theorem isDoubleDot_encode (s : List Char) :
    isDoubleDot (encode isUnreserved s) = true ↔ s = ['.', '.'] := by
  constructor
  · intro h
    have hbytes := decode_of_isDoubleDot h
    rw [Text.Percent.decode_encode rfl] at hbytes
    exact Text.Utf8.encode_injective hbytes
  · rintro rfl
    rfl

end Dots

section Pieces

/-- A piece of data that is not dots becomes a segment as it stands. -/
theorem addPieces_data {before : List String} {p : List Char} {r : List (List Char)}
    (hsingle : isSingleDot p = false) (hdouble : isDoubleDot p = false)
    (hdata : ∀ c ∈ p, IsData c) :
    addPieces false before (p :: r) = addPieces false (before ++ [String.ofList p]) r := by
  have hsegment : segmentOf false before p = String.ofList p := by
    simp only [segmentOf, Bool.false_and, Bool.false_eq_true, if_false]
    exact congrArg String.ofList (Text.Percent.encode_of_kept fun c hc => (hdata c hc).plain.1)
  rw [addPieces, hsingle, hdouble, if_neg Bool.false_ne_true, if_neg Bool.false_ne_true, hsegment]

theorem pieces_data {s : List Char} (h : ∀ c ∈ s, IsData c ∨ c = '/') :
    pieces true s = cut '/' s := by
  have hkept (c : Char) (hc : c ∈ s) : (if isSlash true c then '/' else c) = id c := by
    rcases h c hc with hdata | rfl
    · simp [hdata.isSlash_eq]
    · rfl
  rw [pieces, List.map_congr_left hkept, List.map_id]

end Pieces

section Reading

theorem significant_of_printable {s : List Char} (h : ∀ c ∈ s, 0x20 < c.toNat) :
    significant s = s := by
  have hdrop (t : List Char) (ht : ∀ c ∈ t, 0x20 < c.toNat) :
      t.dropWhile (fun c : Char => c.toNat ≤ 0x20) = t := by
    cases t with
    | nil => rfl
    | cons c t => simp [ht c List.mem_cons_self]
  have hends : (s.reverse.dropWhile (fun c : Char => c.toNat ≤ 0x20)).reverse = s := by
    rw [hdrop s.reverse (by simpa using h), List.reverse_reverse]
  simp only [significant, hdrop s h, hends]
  rw [List.filter_eq_self]
  intro c hc
  have hlt := h c hc
  simp only [Bool.and_eq_true, decide_eq_true_eq]
  refine ⟨⟨?_, ?_⟩, ?_⟩ <;>
    · rintro rfl
      exact absurd hlt (by decide)

def queryChars : Option (List Char) → List Char
  | none => []
  | some q => '?' :: q

theorem splitOnce_queryChars {s : List Char} (h : '?' ∉ s) (query : Option (List Char)) :
    splitOnce '?' (s ++ queryChars query) = query.map (s, ·) := by
  cases query with
  | none => rw [queryChars, List.append_nil, Text.splitOnce_of_not_mem h, Option.map_none]
  | some q => rw [queryChars, Text.splitOnce_append h, Option.map_some]

theorem splitTail_data {body : List Char} (hbody : ∀ c ∈ body, IsData c ∨ c = '/')
    {query : Option (List Char)} (hquery : ∀ q ∈ query, ∀ c ∈ q, keepsInQuery true c = true) :
    splitTail (body ++ queryChars query) = ⟨body, query, none⟩ := by
  have habsent {d : Char} (hd : ∀ c, IsData c → c ≠ d) (hslash : d ≠ '/') : d ∉ body := by
    intro hmem
    exact (hbody d hmem).elim (fun h => hd d h rfl) hslash
  have hmark : '?' ∉ body := habsent (fun c h => h.ne.2.2.1) (by decide)
  have hhash : '#' ∉ body ++ queryChars query := by
    rw [List.mem_append, not_or]
    refine ⟨habsent (fun c h => h.ne.2.2.2.1) (by decide), ?_⟩
    cases query with
    | none => exact List.not_mem_nil
    | some q =>
      simp only [queryChars, List.mem_cons, not_or]
      exact ⟨by decide, fun h => (of_keepsInQuery (hquery q rfl _ h)).2 rfl⟩
  rw [splitTail, Text.splitOnce_of_not_mem hhash]
  simp only [splitOnce_queryChars hmark]
  cases query with
  | none => simp [queryChars]
  | some q => rfl

theorem significant_data {body : List Char} (hbody : ∀ c ∈ body, IsData c ∨ c = '/')
    {query : Option (List Char)} (hquery : ∀ q ∈ query, ∀ c ∈ q, keepsInQuery true c = true) :
    significant (body ++ queryChars query) = body ++ queryChars query := by
  refine significant_of_printable fun c hc => ?_
  rcases List.mem_append.mp hc with hc | hc
  · rcases hbody c hc with hdata | rfl
    · exact hdata.plain.2.1
    · decide
  · cases query with
    | none => cases hc
    | some q =>
      rcases List.mem_cons.mp hc with rfl | hc
      · decide
      · exact (of_keepsInQuery (hquery q rfl c hc)).1

/-- A reference of data is read below the base, with the query that it brings. -/
theorem join_data {base : Address} {ss : List String} (hpath : base.path = .segments ss)
    (hspecial : base.isSpecial = true) {body : List Char} {query : Option (List Char)}
    (hbody : ∀ c ∈ body, IsData c ∨ c = '/') (hfirst : ∃ c r, body = c :: r ∧ IsData c)
    (hquery : ∀ q ∈ query, ∀ c ∈ q, keepsInQuery true c = true)
    (hscheme : splitScheme (body ++ queryChars query) = none) :
    base.join (String.ofList (body ++ queryChars query)) = .ok { base with
      path := .segments (addPieces false ss.dropLast (cut '/' body))
      query := query.map String.ofList
      fragment := none } := by
  have hkept : query.map (encoded (keepsInQuery true)) = query.map String.ofList := by
    cases query with
    | none => rfl
    | some q =>
      exact congrArg (some <| String.ofList ·) (Text.Percent.encode_of_kept (hquery q rfl))
  have hread : readRelative base (body ++ queryChars query) = .ok { base with
      path := .segments (addPieces false ss.dropLast (cut '/' body))
      query := query.map String.ofList
      fragment := none } := by
    obtain ⟨c, r, rfl, hc⟩ := hfirst
    simp only [readRelative, splitTail_data hbody hquery, hc.isSlash_eq, hspecial, hpath,
      Path.segmentList, readPath, pieces_data hbody, Tail.queryText, hkept, Tail.fragmentText]
    rfl
  simp only [join, String.toList_ofList, significant_data hbody hquery, hscheme, hpath, hread]

end Reading

end Testbed.Address
