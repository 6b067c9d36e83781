import Mathlib.Data.List.TakeWhile
import Testbed.Proofs.Address.PathEnd

/-!
# A slash behind an address

What becomes of an address of the web when a slash is put behind its text. The site stays the same.
If the text has a query or a fragment, the slash goes there and the path stays as it is. Otherwise
it ends the path just if the text does not end with a slash or a blank already.
-/

namespace Testbed

namespace Text

section Splits

variable {p : Char → Bool} {s : List Char}

theorem splitWhere_cons_of_not {c : Char} (hc : p c = false) (s : List Char) :
    splitWhere p (c :: s) = (c :: (splitWhere p s).1, (splitWhere p s).2) := by
  simp [splitWhere, hc]

/-- A text that is split is split there whatever stands behind it. -/
theorem splitWhere_append_of_ne (h : (splitWhere p s).2 ≠ []) (x : List Char) :
    splitWhere p (s ++ x) = ((splitWhere p s).1, (splitWhere p s).2 ++ x) := by
  induction s with
  | nil => exact absurd rfl h
  | cons c s ih =>
    cases hc : p c with
    | true => simp [splitWhere, hc]
    | false =>
      rw [splitWhere_cons_of_not hc] at h ⊢
      rw [List.cons_append, splitWhere_cons_of_not hc, ih h]

theorem splitWhere_append_of_nil (h : (splitWhere p s).2 = []) (x : List Char) :
    splitWhere p (s ++ x) = (s ++ (splitWhere p x).1, (splitWhere p x).2) := by
  induction s with
  | nil => rfl
  | cons c s ih =>
    cases hc : p c with
    | true => simp [splitWhere, hc] at h
    | false =>
      rw [splitWhere_cons_of_not hc] at h
      rw [List.cons_append, splitWhere_cons_of_not hc, ih h, List.cons_append]

theorem splitWhere_snd_eq_nil_iff : (splitWhere p s).2 = [] ↔ ∀ c ∈ s, p c = false := by
  simp [splitWhere, List.dropWhile_eq_nil_iff]

theorem splitWhere_of_snd_eq_nil (h : (splitWhere p s).2 = []) : splitWhere p s = (s, []) := by
  have hwhole := splitWhere_append p s
  rw [h, List.append_nil] at hwhole
  exact Prod.ext hwhole h

variable {c : Char} {r : List Char}

theorem of_splitWhere (h : (splitWhere p s).2 = c :: r) : p c = true := by
  have hstop := List.head?_dropWhile_not (!p ·) s
  rw [show s.dropWhile (!p ·) = c :: r from h] at hstop
  simpa using hstop

theorem getLast?_of_splitWhere (h : (splitWhere p s).2 = c :: r) :
    s.getLast? = (c :: r).getLast? := by
  rw [← splitWhere_append p s, h, List.getLast?_append_of_ne_nil _ (List.cons_ne_nil c r)]

end Splits

end Text

namespace Address

open Text (cut splitOnce splitWhere)

section Significant

/-- Characters that count wherever they stand. -/
def isKept (c : Char) : Bool := c ≠ '\t' && c ≠ '\n' && c ≠ '\r'

variable (s : List Char)

theorem exists_blanks : ∃ body blanks : List Char, s = body ++ blanks ∧
    (∀ c ∈ blanks, IsBlankEnd c) ∧ (∀ c ∈ body.getLast?, ¬IsBlankEnd c) ∧
    body = (s.reverse.dropWhile fun c => decide (IsBlankEnd c)).reverse := by
  refine ⟨_, (s.reverse.takeWhile fun c => decide (IsBlankEnd c)).reverse, ?_, ?_, ?_, rfl⟩
  · rw [← List.reverse_append, List.takeWhile_append_dropWhile, List.reverse_reverse]
  · intro c hc
    have htaken := List.all_takeWhile (p := fun c => decide (IsBlankEnd c)) (l := s.reverse)
    exact of_decide_eq_true (List.all_eq_true.mp htaken c (List.mem_reverse.mp hc))
  · intro c hc
    rw [List.getLast?_reverse] at hc
    have hdropped := List.head?_dropWhile_not (fun c => decide (IsBlankEnd c)) s.reverse
    rw [hc] at hdropped
    simpa using hdropped

/-- The blanks at the end of a text count once a slash stands behind them. -/
theorem exists_significant_slash : ∃ front blanks : List Char,
    s.filter isKept = front ++ significant s ++ blanks ∧
    significant (s ++ ['/']) = significant s ++ (blanks ++ ['/']) ∧ (∀ c ∈ front, IsBlankEnd c) ∧
    (∀ c ∈ blanks, IsBlankEnd c) ∧ ∀ c ∈ (significant s).getLast?, ¬IsBlankEnd c := by
  let blank (c : Char) : Bool := decide (IsBlankEnd c)
  obtain ⟨body, blanks, hsplit, hblanks, hlast, hbody⟩ := exists_blanks (s.dropWhile blank)
  have hsignificant : significant s = body.filter isKept := hbody ▸ rfl
  have hs : s = s.takeWhile blank ++ (body ++ blanks) :=
    hsplit ▸ List.takeWhile_append_dropWhile.symm
  refine ⟨(s.takeWhile blank).filter isKept, blanks.filter isKept, ?_, ?_, ?_, ?_, ?_⟩
  · conv_lhs => rw [hs]
    rw [hsignificant, List.filter_append, List.filter_append, List.append_assoc]
  · rw [significant_slash, hsignificant, ← List.append_assoc, ← List.filter_append, ← hsplit]
    rfl
  · intro c hc
    have htaken := List.all_takeWhile (p := blank) (l := s)
    exact of_decide_eq_true (List.all_eq_true.mp htaken c (List.mem_of_mem_filter hc))
  · exact fun c hc => hblanks c (List.mem_of_mem_filter hc)
  · -- the last character is no blank, so it counts
    rw [hsignificant]
    rcases List.eq_nil_or_concat body with rfl | ⟨front, c, rfl⟩
    · simp
    · have hc : ¬IsBlankEnd c := hlast c (by simp)
      have hkept : isKept c = true := by
        simp only [isKept, Bool.and_eq_true, decide_eq_true_eq]
        refine ⟨⟨?_, ?_⟩, ?_⟩ <;>
          · rintro rfl
            exact hc (by decide)
      simpa [hkept] using hc

end Significant

section Scheme

variable {s x r : List Char} {scheme : String}

theorem splitScheme_cons_iff {c : Char} : splitScheme (c :: s) = some (scheme, r) ↔
    c.isAlpha = true ∧ ∃ name, splitWhere (!isSchemeChar ·) (c :: s) = (name, ':' :: r) ∧
      scheme = String.ofList (name.map Char.toLower) := by
  rw [splitScheme]
  split_ifs with hc
  · split
    · next name r' hsplit =>
      rw [hsplit]
      simp only [hc, true_and, Option.some.injEq, Prod.mk.injEq, List.cons.injEq]
      constructor
      · intro h
        exact ⟨name, ⟨rfl, h.2⟩, h.1.symm⟩
      · rintro ⟨name', ⟨rfl, hr⟩, hscheme⟩
        exact ⟨hscheme.symm, hr⟩
    · next hno =>
      constructor
      · intro h
        cases h
      · rintro ⟨-, name, hsplit, -⟩
        exact absurd hsplit (hno name r)
  · simp [hc]

theorem colon_mem_of_splitWhere {name : List Char}
    (h : splitWhere (!isSchemeChar ·) s = (name, ':' :: r)) : ':' ∈ s := by
  rw [← Text.splitWhere_append (!isSchemeChar ·) s, h]
  simp

theorem splitScheme_of_not_mem (h : ':' ∉ s) : splitScheme s = none := by
  cases hsplit : splitScheme s with
  | none => rfl
  | some found =>
    cases s with
    | nil => cases hsplit
    | cons c s =>
      obtain ⟨-, name, hwhere, -⟩ := splitScheme_cons_iff.mp hsplit
      exact absurd (colon_mem_of_splitWhere hwhere) h

theorem splitScheme_append (hx : ':' ∉ x) (h : splitScheme (s ++ x) = some (scheme, r)) :
    ∃ r₀, r = r₀ ++ x ∧ splitScheme s = some (scheme, r₀) := by
  cases s with
  | nil => exact absurd h (by simp [splitScheme_of_not_mem hx])
  | cons c s =>
    rw [List.cons_append, splitScheme_cons_iff, ← List.cons_append] at h
    obtain ⟨hc, name, hsplit, hscheme⟩ := h
    by_cases hnil : (splitWhere (!isSchemeChar ·) (c :: s)).2 = []
    · rw [Text.splitWhere_append_of_nil hnil, Prod.mk.injEq] at hsplit
      exact absurd (colon_mem_of_splitWhere (Prod.ext rfl hsplit.2)) hx
    · rw [Text.splitWhere_append_of_ne hnil, Prod.mk.injEq] at hsplit
      obtain ⟨d, r₀, hrest⟩ := List.exists_cons_of_ne_nil hnil
      rw [hrest, List.cons_append, List.cons.injEq] at hsplit
      obtain ⟨rfl, rfl, hr⟩ := hsplit
      exact ⟨r₀, hr.symm, splitScheme_cons_iff.mpr ⟨hc, _, Prod.ext rfl hrest, hscheme⟩⟩

theorem exists_of_splitScheme (h : splitScheme s = some (scheme, r)) :
    ∃ name, s = name ++ r ∧ IsPlain name := by
  cases s with
  | nil => cases h
  | cons c s =>
    obtain ⟨-, name, hsplit, -⟩ := splitScheme_cons_iff.mp h
    refine ⟨name ++ [':'], ?_, ?_⟩
    · rw [← Text.splitWhere_append (!isSchemeChar ·) (c :: s), hsplit, List.append_assoc]
      rfl
    · have hname (d : Char) (hd : d ∈ name) : isSchemeChar d = true := by
        rw [← (Prod.mk.inj hsplit).1] at hd
        have htaken := List.all_takeWhile (p := fun c => !!isSchemeChar c) (l := c :: s)
        simpa using List.all_eq_true.mp htaken d hd
      constructor <;>
        · intro hd
          rcases List.mem_append.mp hd with hd | hd
          · exact absurd (hname _ hd) (by decide)
          · exact absurd hd (by decide)

end Scheme

section Tail

variable {s x : List Char}

theorem splitTail_append (hx : IsPlain x) (h : ¬IsPlain s) :
    (splitTail (s ++ x)).body = (splitTail s).body ∧
      (splitTail (s ++ x)).query.isSome = (splitTail s).query.isSome ∧
      (splitTail (s ++ x)).fragment.isSome = (splitTail s).fragment.isSome := by
  by_cases hhash : '#' ∈ s
  · obtain ⟨a, b, rfl, ha⟩ := List.eq_append_cons_of_mem hhash
    rw [List.append_assoc, List.cons_append, splitTail, splitTail, Text.splitOnce_append ha,
      Text.splitOnce_append ha]
    cases hquery : splitOnce '?' a <;> simp [hquery]
  · have hmark : '?' ∈ s := by_contra fun hno => h ⟨hno, hhash⟩
    have hhash' : '#' ∉ s ++ x := by simpa using ⟨hhash, hx.2⟩
    rw [splitTail, splitTail, Text.splitOnce_of_not_mem hhash, Text.splitOnce_of_not_mem hhash']
    obtain ⟨a, b, rfl, ha⟩ := List.eq_append_cons_of_mem hmark
    simp [Text.splitOnce_append ha]

end Tail

section Site

structure SameSite (a b : Address) : Prop where
  scheme : a.scheme = b.scheme
  username : a.username = b.username
  password : a.password = b.password
  host : a.host = b.host
  port : a.port = b.port

theorem SameSite.trans {a b c : Address} (h : SameSite a b) (h' : SameSite b c) : SameSite a c :=
  ⟨h.scheme.trans h'.scheme, h.username.trans h'.username, h.password.trans h'.password,
    h.host.trans h'.host, h.port.trans h'.port⟩

end Site

section Authorities

variable {scheme : String} {c : Char}

theorem splitHost_concat (hc : c ≠ ':') (inside : Bool) (s : List Char) :
    (splitHost inside (s ++ [c])).2 = [] ∧ (∃ h, (splitHost inside (s ++ [c])).1 = h ++ [c]) ∨
      ∃ p, (splitHost inside (s ++ [c])).2 = ':' :: (p ++ [c]) := by
  induction s generalizing inside with
  | nil =>
    rw [List.nil_append, splitHost, if_neg (by simp [hc])]
    exact .inl ⟨rfl, [], rfl⟩
  | cons d s ih =>
    rw [List.cons_append, splitHost]
    split_ifs with hcolon
    · exact .inr ⟨s, by rw [hcolon.1]⟩
    all_goals
      rcases ih _ with ⟨hport, h, hhost⟩ | ⟨p, hport⟩
      · exact .inl ⟨hport, d :: h, congrArg (d :: ·) hhost⟩
      · exact .inr ⟨p, hport⟩

theorem exists_hostPort_concat (hc : c ≠ '@') (s : List Char) :
    ∃ h, ((splitCredentials (s ++ [c])).getD ([], s ++ [c])).2 = h ++ [c] := by
  rw [splitCredentials]
  split_ifs
  · exact ⟨s, rfl⟩
  · simp [hc]

theorem gives_readPort_concat (hc : c.isDigit = false) (s : List Char) :
    Gives (readPort true (s ++ [c])) fun _ => False := by
  have hrest : (splitWhere (!Char.isDigit ·) (s ++ [c])).2 ≠ [] := by
    by_cases hs : (splitWhere (!Char.isDigit ·) s).2 = []
    · rw [Text.splitWhere_append_of_nil hs]
      simp [splitWhere, hc]
    · rw [Text.splitWhere_append_of_ne hs]
      simp
  obtain ⟨d, r, hr⟩ := List.exists_cons_of_ne_nil hrest
  simp only [readPort, hr]
  exact gives_error _

variable (hspecial : isSpecialScheme scheme = true)
include hspecial

/-- An authority does not end with a blank. -/
theorem gives_readAuthority_concat (hc : IsBlankEnd c) (ended : Bool) (s : List Char) :
    Gives (readAuthority scheme ended (s ++ [c])) fun _ => False := by
  have hdigit : c.isDigit = false := by
    have hle : c.toNat ≤ 0x20 := hc
    have hzero : ¬0x30 ≤ c.toNat := by omega
    rw [Bool.eq_false_iff]
    exact fun h => hzero (of_decide_eq_true (Bool.and_eq_true_iff.mp h).1)
  obtain ⟨h, hh⟩ := exists_hostPort_concat (hc.ne (by decide) : c ≠ '@') s
  simp only [readAuthority, hspecial, if_true, hh]
  refine gives_ite (gives_throw _ _) (gives_ite (gives_throw _ _) ?_)
  rcases splitHost_concat (hc.ne (by decide) : c ≠ ':') false h with ⟨-, host, hhost⟩ | ⟨p, hport⟩
  · obtain ⟨e, he⟩ := Host.exists_error_read_concat hc host
    rw [hhost, he]
    exact gives_error e
  · rw [hport]
    refine gives_after fun host => ?_
    exact gives_bind (gives_readPort_concat hdigit p) fun _ hno => hno.elim

theorem gives_readAuthority_nil (ended : Bool) :
    Gives (readAuthority scheme ended []) fun _ => False := by
  simp only [readAuthority, hspecial, if_true]
  cases ended <;> exact gives_error _

omit hspecial in
/-- An authority that is ended by a slash is one without it. -/
theorem gives_readAuthority_ended (ended : Bool) (s : List Char) :
    Gives (readAuthority scheme true s) fun a => readAuthority scheme ended s = .ok a := by
  cases ended with
  | true => exact fun a ha => ha
  | false =>
    simp only [readAuthority, Bool.true_and, Bool.false_and, Bool.false_eq_true, if_false]
    exact gives_ite (gives_throw _ _) fun a ha => ha

end Authorities

section AfterSlashes

def segmentsFrom (pathText : List Char) : List String :=
  match pathText with
  | [] => [""]
  | _ :: r => readPath true [] r

theorem exists_segmentsFrom (pathText : List Char) :
    ∃ ss l, segmentsFrom pathText = ss ++ [l] ∧ '/' ∉ l.toList := by
  cases pathText with
  | nil => exact ⟨[], "", rfl, by decide⟩
  | cons c q => exact exists_readPath_last q

def addressAt (scheme : String) (t : Tail) (pathText : List Char) (a : Authority) : Address where
  scheme := scheme
  username := a.username
  password := a.password
  host := some a.host
  port := a.port
  path := .segments (segmentsFrom pathText)
  query := t.queryText true
  fragment := t.fragmentText

variable {scheme : String} (hspecial : isSpecialScheme scheme = true) {t t' : Tail}
  {s blanks : List Char}
include hspecial

theorem readAfterSlashes_eq {authority pathText : List Char}
    (hsplit : splitWhere (isSlash true) s = (authority, pathText)) :
    readAfterSlashes scheme t s =
      (readAuthority scheme (!pathText.isEmpty || t.query.isSome || t.fragment.isSome)
        authority).map (addressAt scheme t pathText) := by
  simp only [readAfterSlashes, hspecial, hsplit]
  cases hread : readAuthority scheme (!pathText.isEmpty || t.query.isSome || t.fragment.isSome)
      authority with
  | error e => rfl
  | ok a =>
    obtain ⟨hrest, -, -⟩ := gives_readAuthority hspecial _ _ a hread
    have hslash : ∀ c r, pathText = c :: r → isSlash true c = true := by
      rintro c r rfl
      exact Text.of_splitWhere (congrArg Prod.snd hsplit)
    have hpath : (match a.rest ++ pathText with
        | [] => if true = true then [""] else []
        | c :: r => readPath true [] (if isSlash true c then r else c :: r)) =
          segmentsFrom pathText := by
      rw [hrest, List.nil_append]
      cases pathText with
      | nil => rfl
      | cons c r => simp only [hslash c r rfl, if_true, segmentsFrom]
    simp only [Except.map, addressAt, ← hpath]
    rfl

/-- A query and a fragment only matter for what they hold themselves. -/
theorem exists_readAfterSlashes_of_tail (hquery : t'.query.isSome = t.query.isSome)
    (hfragment : t'.fragment.isSome = t.fragment.isSome) {a : Address}
    (h : readAfterSlashes scheme t' s = .ok a) :
    ∃ own, readAfterSlashes scheme t s = .ok own ∧ SameSite a own ∧ a.path = own.path := by
  rw [readAfterSlashes_eq hspecial rfl, hquery, hfragment] at h
  rw [readAfterSlashes_eq hspecial rfl]
  obtain ⟨au, hau, rfl⟩ := exists_of_map_ok h
  exact ⟨_, congrArg (Except.map _) hau, ⟨rfl, rfl, rfl, rfl, rfl⟩, rfl⟩

/-- A slash behind the authority begins the path. -/
theorem exists_readAfterSlashes_authority (hblanks : ∀ c ∈ blanks, IsBlankEnd c) {a : Address}
    (hrest : (splitWhere (isSlash true) s).2 = [])
    (h : readAfterSlashes scheme t' (s ++ (blanks ++ ['/'])) = .ok a) :
    ∃ own, readAfterSlashes scheme t s = .ok own ∧ SameSite a own ∧
      (a.path.text = slashed own.path.text ↔
        blanks = [] ∧ ∃ d ∈ s.getLast?, isSlash true d = false) := by
  have hsplit : splitWhere (isSlash true) (s ++ (blanks ++ ['/'])) = (s ++ blanks, ['/']) := by
    have hfree : (splitWhere (isSlash true) blanks).2 = [] :=
      Text.splitWhere_snd_eq_nil_iff.mpr fun c hc => isSlash_of_blank (hblanks c hc)
    rw [Text.splitWhere_append_of_nil hrest, Text.splitWhere_append_of_nil hfree]
    simp [splitWhere, isSlash]
  rw [readAfterSlashes_eq hspecial hsplit] at h
  rw [readAfterSlashes_eq hspecial (Text.splitWhere_of_snd_eq_nil hrest)]
  obtain ⟨au, hau, rfl⟩ := exists_of_map_ok h
  rcases List.eq_nil_or_concat' blanks with rfl | ⟨blanks', c, rfl⟩
  · rw [List.append_nil] at hau
    have hne : s ≠ [] := by
      rintro rfl
      exact gives_readAuthority_nil hspecial _ au hau
    have hpath : (Path.segments (segmentsFrom ['/'])).text =
        slashed (Path.segments (segmentsFrom [])).text := by decide +kernel
    refine ⟨_, congrArg (Except.map _) (gives_readAuthority_ended _ _ au hau),
      ⟨rfl, rfl, rfl, rfl, rfl⟩, iff_of_true hpath ⟨rfl, s.getLast hne, ?_, ?_⟩⟩
    · exact List.getLast?_eq_some_getLast hne
    · exact Text.splitWhere_snd_eq_nil_iff.mp hrest _ (List.getLast_mem hne)
  · rw [← List.append_assoc] at hau
    exact (gives_readAuthority_concat hspecial (hblanks c (by simp)) _ _ au hau).elim

theorem exists_readAfterSlashes_slash (hblanks : ∀ c ∈ blanks, IsBlankEnd c) {a : Address}
    (h : readAfterSlashes scheme t' (s ++ (blanks ++ ['/'])) = .ok a) :
    ∃ own, readAfterSlashes scheme t s = .ok own ∧ SameSite a own ∧
      (a.path.text = slashed own.path.text ↔
        blanks = [] ∧ ∃ d ∈ s.getLast?, isSlash true d = false) := by
  cases hrest : (splitWhere (isSlash true) s).2 with
  | nil => exact exists_readAfterSlashes_authority hspecial hblanks hrest h
  | cons c q =>
    have hown : splitWhere (isSlash true) s = ((splitWhere (isSlash true) s).1, c :: q) :=
      Prod.ext rfl hrest
    have hsplit : splitWhere (isSlash true) (s ++ (blanks ++ ['/'])) =
        ((splitWhere (isSlash true) s).1, c :: (q ++ (blanks ++ ['/']))) := by
      rw [Text.splitWhere_append_of_ne (by simp [hrest]), hrest]
      rfl
    rw [readAfterSlashes_eq hspecial hsplit] at h
    rw [readAfterSlashes_eq hspecial hown]
    obtain ⟨au, hau, rfl⟩ := exists_of_map_ok h
    refine ⟨_, congrArg (Except.map _) hau, ⟨rfl, rfl, rfl, rfl, rfl⟩, ?_⟩
    have hlast : (∃ d ∈ s.getLast?, isSlash true d = false) ↔
        ∃ d ∈ q.getLast?, isSlash true d = false := by
      rw [Text.getLast?_of_splitWhere hrest]
      cases q with
      | nil => simp [Text.of_splitWhere hrest]
      | cons d q => rw [List.getLast?_cons_cons]
    rw [hlast]
    exact text_readPath_slash hblanks q

theorem gives_readAfterSlashes_nil : Gives (readAfterSlashes scheme t []) fun _ => False := by
  intro a h
  rw [readAfterSlashes_eq hspecial rfl] at h
  obtain ⟨au, hau, -⟩ := exists_of_map_ok h
  exact gives_readAuthority_nil hspecial _ au hau

theorem exists_readAfterScheme_slash (hblanks : ∀ c ∈ blanks, IsBlankEnd c) {a : Address}
    (h : readAfterSlashes scheme t' ((s ++ (blanks ++ ['/'])).dropWhile (isSlash true)) = .ok a) :
    ∃ own, readAfterSlashes scheme t (s.dropWhile (isSlash true)) = .ok own ∧ SameSite a own ∧
      (a.path.text = slashed own.path.text ↔
        blanks = [] ∧ ∃ d ∈ s.getLast?, isSlash true d = false) := by
  rw [List.dropWhile_append] at h
  cases hdrop : s.dropWhile (isSlash true) with
  | nil =>
    rw [hdrop, List.isEmpty_nil, if_pos rfl] at h
    cases blanks with
    | nil => exact (gives_readAfterSlashes_nil hspecial a h).elim
    | cons b bs =>
      have hb : isSlash true b = false := isSlash_of_blank (hblanks b List.mem_cons_self)
      rw [List.cons_append, List.dropWhile_cons_of_neg (by simp [hb])] at h
      obtain ⟨own, hown, hsame, hpath⟩ :=
        exists_readAfterSlashes_slash (s := []) hspecial hblanks h
      exact ⟨own, hown, hsame, hpath.trans (by simp)⟩
  | cons c r =>
    have hlast : s.getLast? = (s.dropWhile (isSlash true)).getLast? := by
      conv_lhs => rw [← List.takeWhile_append_dropWhile (p := isSlash true) (l := s)]
      exact List.getLast?_append_of_ne_nil _ (by simp [hdrop])
    rw [hdrop] at h hlast
    rw [hlast]
    exact exists_readAfterSlashes_slash hspecial hblanks h

end AfterSlashes

section Texts

/-- A text whose end a slash behind it would end a path at: neither a slash nor a blank. -/
def TakesSlash (s : List Char) : Prop :=
  ∃ d ∈ (s.filter isKept).getLast?, ¬IsBlankEnd d ∧ isSlash true d = false

variable {base : String} {a : Address}

theorem readAfterScheme_of_web {scheme : String} {r : List Char}
    (h : readAfterScheme scheme r = .ok a) (hweb : Resolver.isWebScheme a.scheme = true) :
    isSpecialScheme scheme = true ∧ ∀ r', readAfterScheme scheme r' =
      readAfterSlashes scheme (splitTail r') ((splitTail r').body.dropWhile (isSlash true)) := by
  have hfile : scheme ≠ "file" := by
    rintro rfl
    exact (isSpecialScheme_of_web hweb).2 (gives_scheme_readFile _ a h)
  have hspecial : isSpecialScheme scheme = true := by
    by_contra hno
    simp only [readAfterScheme, if_neg hfile, if_neg hno] at h
    rw [gives_scheme_readOther scheme _ a h] at hweb
    exact hno (isSpecialScheme_of_web hweb).1
  refine ⟨hspecial, fun r' => ?_⟩
  simp only [readAfterScheme, if_neg hfile, hspecial, if_true]

theorem isPlain_append {s t : List Char} : IsPlain (s ++ t) ↔ IsPlain s ∧ IsPlain t := by
  simp only [IsPlain, List.mem_append, not_or]
  tauto

theorem isPlain_of_blank {s : List Char} (h : ∀ c ∈ s, IsBlankEnd c) : IsPlain s :=
  ⟨fun hc => absurd (h _ hc) (by decide), fun hc => absurd (h _ hc) (by decide)⟩

/-- An address of the web has segments, and no slash is in the last one. -/
theorem exists_segments_of_web {text : String} (h : Address.ofText text = .ok a)
    (hweb : Resolver.isWebScheme a.scheme = true) :
    ∃ ss l, a.path = .segments (ss ++ [l]) ∧ '/' ∉ l.toList := by
  rw [Address.ofText] at h
  cases hsplit : splitScheme (significant text.toList) with
  | none => simp [hsplit] at h
  | some found =>
    obtain ⟨scheme, r⟩ := found
    simp only [hsplit] at h
    obtain ⟨hspecial, hslashes⟩ := readAfterScheme_of_web h hweb
    rw [hslashes, readAfterSlashes_eq hspecial rfl] at h
    obtain ⟨au, -, rfl⟩ := exists_of_map_ok h
    obtain ⟨ss, l, hsegments, hl⟩ := exists_segmentsFrom _
    exact ⟨ss, l, congrArg Path.segments hsegments, hl⟩

/-- Where the slash goes in a text that is read. -/
theorem exists_of_ofText_slash (h : Address.ofText (base ++ "/") = .ok a) :
    ∃ front scheme r blanks, base.toList.filter isKept = front ++ (r ++ blanks) ∧ IsPlain front ∧
      (∀ c ∈ blanks, IsBlankEnd c) ∧ (∀ c ∈ r.getLast?, ¬IsBlankEnd c) ∧
      Address.ofText base = readAfterScheme scheme r ∧
      readAfterScheme scheme (r ++ (blanks ++ ['/'])) = .ok a := by
  obtain ⟨front, blanks, hkept, hslash, hfront, hblanks, hlast⟩ :=
    exists_significant_slash base.toList
  have hwhole : (base ++ "/").toList = base.toList ++ ['/'] := String.toList_append
  rw [Address.ofText, hwhole, hslash] at h
  cases hsplit : splitScheme (significant base.toList ++ (blanks ++ ['/'])) with
  | none => simp [hsplit] at h
  | some found =>
    obtain ⟨scheme, r'⟩ := found
    simp only [hsplit] at h
    have hcolon : ':' ∉ blanks ++ ['/'] := by
      rw [List.mem_append, not_or]
      exact ⟨fun hc => absurd (hblanks _ hc) (by decide), by decide⟩
    obtain ⟨r, rfl, hown⟩ := splitScheme_append hcolon hsplit
    obtain ⟨name, hname, hplain⟩ := exists_of_splitScheme hown
    refine ⟨front ++ name, scheme, r, blanks, ?_, ?_, hblanks, ?_, ?_, h⟩
    · rw [hkept, hname]
      simp only [List.append_assoc]
    · exact isPlain_append.mpr ⟨isPlain_of_blank hfront, hplain⟩
    · intro c hc
      refine hlast c ?_
      rw [hname, List.getLast?_append, hc]
      rfl
    · simp only [Address.ofText, hown]

/-- A slash behind a plain text ends the path just if the text takes it. -/
theorem exists_ofText_slash (hplain : IsPlain base.toList)
    (h : Address.ofText (base ++ "/") = .ok a) (hweb : Resolver.isWebScheme a.scheme = true) :
    ∃ own, Address.ofText base = .ok own ∧ SameSite a own ∧
      (a.path.text = slashed own.path.text ↔ TakesSlash base.toList) := by
  obtain ⟨front, scheme, r, blanks, hkept, -, hblanks, hlast, hown, hread⟩ :=
    exists_of_ofText_slash h
  obtain ⟨hspecial, hslashes⟩ := readAfterScheme_of_web hread hweb
  have hr : IsPlain r := by
    have hsub : r ⊆ base.toList := by
      intro c hc
      exact List.mem_of_mem_filter (hkept ▸ List.mem_append_right _ (List.mem_append_left _ hc))
    exact ⟨fun hc => hplain.1 (hsub hc), fun hc => hplain.2 (hsub hc)⟩
  have hr' : IsPlain (r ++ (blanks ++ ['/'])) :=
    isPlain_append.mpr ⟨hr, isPlain_append.mpr ⟨isPlain_of_blank hblanks, by decide, by decide⟩⟩
  rw [hslashes, splitTail_plain hr'] at hread
  rw [hown, hslashes, splitTail_plain hr]
  obtain ⟨own, hown, hsame, hpath⟩ := exists_readAfterScheme_slash hspecial hblanks hread
  refine ⟨own, hown, hsame, hpath.trans ?_⟩
  rw [TakesSlash, hkept]
  rcases List.eq_nil_or_concat' blanks with rfl | ⟨blanks', c, rfl⟩
  · have hne : r ≠ [] := by
      rintro rfl
      exact gives_readAfterSlashes_nil hspecial a hread
    rw [List.append_nil, List.getLast?_append_of_ne_nil _ hne, and_iff_right rfl]
    exact exists_congr fun d => and_congr_right fun hd => (and_iff_right (hlast d hd)).symm
  · have hend : (front ++ (r ++ (blanks' ++ [c]))).getLast? = some c := by simp
    rw [hend]
    refine iff_of_false (fun hno => absurd hno.1 (by simp)) ?_
    rintro ⟨d, hd, hno, -⟩
    obtain rfl := Option.some.inj hd
    exact hno (hblanks c (by simp))

/-- A slash behind a query or a fragment leaves the path alone. -/
theorem exists_ofText_slash_of_not_plain (hplain : ¬IsPlain base.toList)
    (h : Address.ofText (base ++ "/") = .ok a) (hweb : Resolver.isWebScheme a.scheme = true) :
    ∃ own, Address.ofText base = .ok own ∧ SameSite a own ∧ a.path = own.path := by
  obtain ⟨front, scheme, r, blanks, hkept, hfront, hblanks, -, hown, hread⟩ :=
    exists_of_ofText_slash h
  obtain ⟨hspecial, hslashes⟩ := readAfterScheme_of_web hread hweb
  have hr : ¬IsPlain r := by
    intro hr
    have hfiltered : IsPlain (base.toList.filter isKept) :=
      hkept ▸ isPlain_append.mpr ⟨hfront, isPlain_append.mpr ⟨hr, isPlain_of_blank hblanks⟩⟩
    exact hplain ⟨fun hc => hfiltered.1 (List.mem_filter.mpr ⟨hc, rfl⟩),
      fun hc => hfiltered.2 (List.mem_filter.mpr ⟨hc, rfl⟩)⟩
  have hx : IsPlain (blanks ++ ['/']) :=
    isPlain_append.mpr ⟨isPlain_of_blank hblanks, by decide, by decide⟩
  obtain ⟨hbody, hquery, hfragment⟩ := splitTail_append hx hr
  rw [hslashes, hbody] at hread
  rw [hown, hslashes]
  exact exists_readAfterSlashes_of_tail hspecial hquery hfragment hread

end Texts

end Address

end Testbed
