import Testbed.Proofs.Json.Reading

/-!
# The texts of tokens

A text of which no token is wrong is put together of the texts of its tokens, with space between
them. What the automaton holds in the middle of a text is the beginning of a token.
-/

namespace Testbed.Json

inductive IsTokenText : Token → List Char → Prop where
  | openArray : IsTokenText .openArray ['[']
  | closeArray : IsTokenText .closeArray [']']
  | openObject : IsTokenText .openObject ['\x7b']
  | closeObject : IsTokenText .closeObject ['\x7d']
  | comma : IsTokenText .comma [',']
  | colon : IsTokenText .colon [':']
  | null : IsTokenText .null ['n', 'u', 'l', 'l']
  | true : IsTokenText (.bool true) ['t', 'r', 'u', 'e']
  | false : IsTokenText (.bool false) ['f', 'a', 'l', 's', 'e']
  | number {n : Numeral} {t : List Char} (h : n.IsText t) : IsTokenText (.number n) t
  | string {text : Option String} {t : List Char} (h : IsString text t) :
    IsTokenText (.string text) t

inductive AreTokens : List Token → List Char → Prop where
  | gap {g : List Char} (hg : IsGap g) : AreTokens [] g
  | cons {k : Token} {ks : List Token} {g t r : List Char} (hg : IsGap g) (h : IsTokenText k t)
    (hr : AreTokens ks r) : AreTokens (k :: ks) (g ++ (t ++ r))

section Numbers

def signText (negative : Bool) : List Char := if negative then ['-'] else []

/-- The text is the beginning of a number, of which this part is read last. -/
inductive NumberPart.IsBegun : NumberPart → Numeral → List Char → Prop where
  | minus : IsBegun .minus ⟨true, [], [], false, []⟩ ['-']
  | zero (negative : Bool) :
    IsBegun .zero ⟨negative, [0], [], false, []⟩ (signText negative ++ ['0'])
  | whole (negative : Bool) {d : ℕ} {ds : List ℕ} (hd : 0 < d) (h : Numeral.AreDigits (d :: ds)) :
    IsBegun .whole ⟨negative, d :: ds, [], false, []⟩
      (signText negative ++ Numeral.digits (d :: ds))
  | point (negative : Bool) {ws : List ℕ} {w : List Char} (hw : Numeral.IsWhole ws w) :
    IsBegun .point ⟨negative, ws, [], false, []⟩ (signText negative ++ (w ++ ['.']))
  | fraction (negative : Bool) {ws : List ℕ} {w : List Char} {d : ℕ} {ds : List ℕ}
    (hw : Numeral.IsWhole ws w) (h : Numeral.AreDigits (d :: ds)) :
    IsBegun .fraction ⟨negative, ws, d :: ds, false, []⟩
      (signText negative ++ (w ++ '.' :: Numeral.digits (d :: ds)))
  | mark (negative : Bool) {ws fs : List ℕ} {w f : List Char} {c : Char}
    (hw : Numeral.IsWhole ws w) (hf : Numeral.IsFraction fs f) (hc : c = 'e' ∨ c = 'E') :
    IsBegun .mark ⟨negative, ws, fs, false, []⟩ (signText negative ++ (w ++ (f ++ [c])))
  | sign (negative : Bool) {ws fs : List ℕ} {w f s : List Char} {c : Char} {down : Bool}
    (hw : Numeral.IsWhole ws w) (hf : Numeral.IsFraction fs f) (hc : c = 'e' ∨ c = 'E')
    (hs : Numeral.IsSign down s) :
    IsBegun .sign ⟨negative, ws, fs, down, []⟩ (signText negative ++ (w ++ (f ++ c :: s)))
  | exponent (negative : Bool) {ws fs : List ℕ} {w f s : List Char} {c : Char} {down : Bool}
    {d : ℕ} {ds : List ℕ} (hw : Numeral.IsWhole ws w) (hf : Numeral.IsFraction fs f)
    (hc : c = 'e' ∨ c = 'E') (hs : Numeral.IsSign down s) (h : Numeral.AreDigits (d :: ds)) :
    IsBegun .exponent ⟨negative, ws, fs, down, d :: ds⟩
      (signText negative ++ (w ++ (f ++ c :: (s ++ Numeral.digits (d :: ds)))))

variable {part part' : NumberPart} {n n' : Numeral} {c : Char} {d : ℕ} {ds : List ℕ} {t : List Char}

theorem eq_digitChar_of_digit? (h : digit? c = some d) : d < 10 ∧ c = Nat.digitChar d := by
  unfold digit? at h
  split_ifs at h with hc
  obtain rfl := Option.some.inj h
  have hrange : 48 ≤ c.toNat ∧ c.toNat ≤ 57 := by
    simpa [Char.isDigit, UInt32.le_iff_toNat_le] using hc
  have hall : ∀ k < 10, Char.ofNat (48 + k) = Nat.digitChar k := by decide
  refine ⟨by omega, ?_⟩
  rw [← hall (c.toNat - 48) (by omega), Nat.add_sub_cancel' hrange.1, Char.ofNat_toNat]

theorem areDigits_concat (h : Numeral.AreDigits ds) (hd : d < 10) :
    Numeral.AreDigits (ds ++ [d]) :=
  List.forall_mem_append.mpr ⟨h, by simpa using hd⟩

/-- What stands before the point is over once the point or the mark of an exponent is read. -/
theorem NumberPart.IsBegun.of_whole {negative : Bool} {ws : List ℕ} {w : List Char}
    (hw : Numeral.IsWhole ws w)
    (h : (if c = '.' then some (NumberPart.point, (⟨negative, ws, [], false, []⟩ : Numeral))
      else if c = 'e' ∨ c = 'E' then some (.mark, ⟨negative, ws, [], false, []⟩) else none) =
        some (part', n')) : IsBegun part' n' (signText negative ++ (w ++ [c])) := by
  split_ifs at h with hpoint hmark
  · obtain ⟨rfl, rfl⟩ := Prod.mk.inj (Option.some.inj h)
    exact hpoint ▸ .point negative hw
  · obtain ⟨rfl, rfl⟩ := Prod.mk.inj (Option.some.inj h)
    exact .mark negative hw .none hmark

/-- A number goes on with a digit behind its sign, in each row of digits it may have, and where a
row begins. -/
theorem NumberPart.IsBegun.next_digit (h : part.IsBegun n t) (hdigit : digit? c = some d)
    (hc : part.next? n c = some (part', n')) : part'.IsBegun n' (t ++ [c]) := by
  obtain ⟨hten, rfl⟩ := eq_digitChar_of_digit? hdigit
  have hone : Numeral.AreDigits [d] := by simpa [Numeral.AreDigits] using hten
  cases h with
  | minus =>
    cases d with
    | zero =>
      simp only [next?, hdigit] at hc
      obtain ⟨rfl, rfl⟩ := Prod.mk.inj (Option.some.inj hc)
      exact .zero true
    | succ d =>
      simp only [next?, hdigit] at hc
      obtain ⟨rfl, rfl⟩ := Prod.mk.inj (Option.some.inj hc)
      exact .whole true d.succ_pos hone
  | zero negative => simp [next?, hdigit] at hc
  | whole negative hd hds =>
    simp only [next?, hdigit] at hc
    obtain ⟨rfl, rfl⟩ := Prod.mk.inj (Option.some.inj hc)
    have h := IsBegun.whole negative hd (areDigits_concat hds hten)
    simpa [Numeral.digits] using h
  | point negative hw =>
    simp only [next?, hdigit] at hc
    obtain ⟨rfl, rfl⟩ := Prod.mk.inj (Option.some.inj hc)
    have h := IsBegun.fraction negative hw hone
    simpa [Numeral.digits] using h
  | fraction negative hw hds =>
    simp only [next?, hdigit] at hc
    obtain ⟨rfl, rfl⟩ := Prod.mk.inj (Option.some.inj hc)
    have h := IsBegun.fraction negative hw (areDigits_concat hds hten)
    simpa [Numeral.digits] using h
  | mark negative hw hf hmark =>
    simp only [next?, hdigit] at hc
    obtain ⟨rfl, rfl⟩ := Prod.mk.inj (Option.some.inj hc)
    have h := IsBegun.exponent negative hw hf hmark .none hone
    simpa [Numeral.digits] using h
  | sign negative hw hf hmark hs =>
    simp only [next?, hdigit] at hc
    obtain ⟨rfl, rfl⟩ := Prod.mk.inj (Option.some.inj hc)
    have h := IsBegun.exponent negative hw hf hmark hs hone
    simpa [Numeral.digits] using h
  | exponent negative hw hf hmark hs hds =>
    simp only [next?, hdigit] at hc
    obtain ⟨rfl, rfl⟩ := Prod.mk.inj (Option.some.inj hc)
    have h := IsBegun.exponent negative hw hf hmark hs (areDigits_concat hds hten)
    simpa [Numeral.digits] using h

/-- Any other character of a number is its point, the mark of its exponent or the sign of that. -/
theorem NumberPart.IsBegun.next_mark (h : part.IsBegun n t) (hdigit : digit? c = none)
    (hc : part.next? n c = some (part', n')) : part'.IsBegun n' (t ++ [c]) := by
  cases h with
  | zero negative =>
    simp only [next?, hdigit] at hc
    rw [List.append_assoc]
    exact .of_whole .zero hc
  | whole negative hd hds =>
    simp only [next?, hdigit] at hc
    rw [List.append_assoc]
    exact .of_whole (.nonzero hd hds) hc
  | fraction negative hw hds =>
    simp only [next?, hdigit] at hc
    split_ifs at hc with hmark
    obtain ⟨rfl, rfl⟩ := Prod.mk.inj (Option.some.inj hc)
    rw [List.append_assoc, List.append_assoc]
    exact .mark negative hw (.some hds) hmark
  | mark negative hw hf hmark =>
    simp only [next?, hdigit] at hc
    rw [List.append_assoc, List.append_assoc, List.append_assoc, List.singleton_append]
    split_ifs at hc with hplus hminus
    · obtain ⟨rfl, rfl⟩ := Prod.mk.inj (Option.some.inj hc)
      exact hplus ▸ .sign negative hw hf hmark .plus
    · obtain ⟨rfl, rfl⟩ := Prod.mk.inj (Option.some.inj hc)
      exact hminus ▸ .sign negative hw hf hmark .minus
  | _ => simp [next?, hdigit] at hc

/-- A character that continues a number leaves the beginning of a number. -/
theorem NumberPart.IsBegun.next (h : part.IsBegun n t) (hc : part.next? n c = some (part', n')) :
    part'.IsBegun n' (t ++ [c]) := by
  cases hdigit : digit? c with
  | none => exact h.next_mark hdigit hc
  | some d => exact h.next_digit hdigit hc

/-- A number that may end is spelled by what has been read of it. -/
theorem NumberPart.IsBegun.isText (h : part.IsBegun n t) {next : Option Char}
    (hend : part.mayEnd next = true) : n.IsText t := by
  cases h with
  | zero negative => exact .parts (n := ⟨negative, [0], [], false, []⟩) .zero .none .none
  | whole negative hd hds =>
    rw [← List.append_nil (Numeral.digits _)]
    exact .parts (n := ⟨negative, _, [], false, []⟩) (.nonzero hd hds) .none .none
  | fraction negative hw hds =>
    rw [← List.append_nil ('.' :: Numeral.digits _)]
    exact .parts (n := ⟨negative, _, _, false, []⟩) hw (.some hds) .none
  | exponent negative hw hf hmark hs hds =>
    exact .parts (n := ⟨negative, _, _, _, _⟩) hw hf (.some hmark hs hds)
  | _ => cases hend

end Numbers

section Strings

inductive IsHex : ℕ → ℕ → List Char → Prop where
  | nil : IsHex 0 0 []
  | concat {k v d : ℕ} {u : List Char} {c : Char} (h : IsHex k v u) (hc : hexDigit? c = some d) :
    IsHex (k + 1) (v * 16 + d) (u ++ [c])

theorem IsHex.isPiece {v : ℕ} {u : List Char} (h : IsHex 4 v u) :
    IsPiece (.ofNat v) ('\\' :: 'u' :: u) := by
  obtain _ | ⟨h, hd⟩ := h
  obtain _ | ⟨h, hc⟩ := h
  obtain _ | ⟨h, hb⟩ := h
  obtain _ | ⟨h, ha⟩ := h
  cases h
  rw [Nat.zero_mul, Nat.zero_add]
  exact .unit ha hb hc hd

theorem ArePieces.concat {xs : List Code} {x : Code} {t u : List Char} (h : ArePieces xs t)
    (hx : IsPiece x u) : ArePieces (xs ++ [x]) (t ++ u) := by
  induction h with
  | nil => simpa using ArePieces.cons hx .nil
  | cons hy _ ih =>
    rw [List.append_assoc]
    exact .cons hy ih

def quoted (xs : List Code) : Quoted := xs.foldl Quoted.addCode .start

theorem quoted_concat (xs : List Code) (x : Code) : quoted (xs ++ [x]) = (quoted xs).addCode x := by
  rw [quoted, List.foldl_append, ← quoted]
  rfl

theorem token_quoted (xs : List Code) :
    (quoted xs).token = .string ((Code.join xs).map String.ofList) :=
  Quoted.token_foldl rfl rfl xs

end Strings

section Automaton

/-- The text is the beginning of a token, after which the automaton is in this mode. -/
inductive Mode.IsBegun : Mode → List Char → Prop where
  | word {k : Token} {w r : List Char} (h : IsTokenText k (w ++ r)) : IsBegun (.word r k) w
  | number {part : NumberPart} {n : Numeral} {t : List Char} (h : part.IsBegun n t) :
    IsBegun (.number part n) t
  | string {xs : List Code} {t : List Char} (h : ArePieces xs t) :
    IsBegun (.string (quoted xs)) ('"' :: t)
  | escape {xs : List Code} {t : List Char} (h : ArePieces xs t) :
    IsBegun (.escape (quoted xs)) ('"' :: (t ++ ['\\']))
  | hex {xs : List Code} {t u : List Char} {k v : ℕ} (h : ArePieces xs t) (hu : IsHex k v u) :
    IsBegun (.hex (quoted xs) k v) ('"' :: (t ++ '\\' :: 'u' :: u))

/-- The text is made of these tokens and of the beginning of another one, if the mode is inside
one. -/
inductive Mode.Leads : List Token → Mode → List Char → Prop where
  | between {g : List Char} (hg : IsGap g) : Leads [] .between g
  | inside {m : Mode} {g t : List Char} (hg : IsGap g) (h : m.IsBegun t) : Leads [] m (g ++ t)
  | cons {k : Token} {ks : List Token} {m : Mode} {g t r : List Char} (hg : IsGap g)
    (h : IsTokenText k t) (hr : Leads ks m r) : Leads (k :: ks) m (g ++ (t ++ r))

variable {m : Mode} {k : Token} {ks : List Token} {c : Char} {g t : List Char}

theorem Mode.Leads.gap_append (hg : IsGap g) (h : Leads ks m t) : Leads ks m (g ++ t) := by
  cases h with
  | between hg' => exact .between (List.forall_mem_append.mpr ⟨hg, hg'⟩)
  | inside hg' h =>
    rw [← List.append_assoc]
    exact .inside (List.forall_mem_append.mpr ⟨hg, hg'⟩) h
  | cons hg' h hr =>
    rw [← List.append_assoc]
    exact .cons (List.forall_mem_append.mpr ⟨hg, hg'⟩) h hr

theorem Mode.IsBegun.leads (h : m.IsBegun t) : Leads [] m t := .inside isGap_nil h

/-- A token is complete, and the automaton is where the next one may begin. -/
theorem leads_token (h : IsTokenText k t) : Mode.Leads [k] .between t := by
  simpa using Mode.Leads.cons isGap_nil h (.between isGap_nil)

/-- Tokens and a mode account for the text, unless a token is wrong. -/
def Accounts (x : List Token × Mode) (s : List Char) : Prop := .wrong ∉ x.1 → x.2.Leads x.1 s

theorem accounts_fail (s : List Char) : Accounts fail s :=
  fun h => absurd (List.mem_singleton_self _) h

theorem accounts_ite {p : Prop} [Decidable p] {x y : List Token × Mode} (hx : p → Accounts x t)
    (hy : ¬p → Accounts y t) : Accounts (if p then x else y) t := by
  by_cases hp : p
  · rw [if_pos hp]
    exact hx hp
  · rw [if_neg hp]
    exact hy hp

/-- A token that is complete at the last character leaves nothing to be read. -/
theorem accounts_token (h : IsTokenText k t) : Accounts ([k], .between) t := fun _ => leads_token h

theorem accounts_begun (h : m.IsBegun t) : Accounts ([], m) t := fun _ => h.leads

theorem accounts_begin (c : Char) : Accounts (begin c) [c] := by
  unfold begin
  refine accounts_ite (fun hc _ => .between (List.forall_mem_singleton.mpr hc)) fun _ => ?_
  refine accounts_ite (fun hc => hc ▸ accounts_token .openArray) fun _ => ?_
  refine accounts_ite (fun hc => hc ▸ accounts_token .closeArray) fun _ => ?_
  refine accounts_ite (fun hc => hc ▸ accounts_token .openObject) fun _ => ?_
  refine accounts_ite (fun hc => hc ▸ accounts_token .closeObject) fun _ => ?_
  refine accounts_ite (fun hc => hc ▸ accounts_token .comma) fun _ => ?_
  refine accounts_ite (fun hc => hc ▸ accounts_token .colon) fun _ => ?_
  refine accounts_ite (fun hc => hc ▸ accounts_begun (.string .nil)) fun _ => ?_
  refine accounts_ite (fun hc => hc ▸ accounts_begun (.word .null)) fun _ => ?_
  refine accounts_ite (fun hc => hc ▸ accounts_begun (.word .true)) fun _ => ?_
  refine accounts_ite (fun hc => hc ▸ accounts_begun (.word .false)) fun _ => ?_
  refine accounts_ite (fun hc => hc ▸ accounts_begun (.number .minus)) fun _ => ?_
  cases hdigit : digit? c with
  | none => exact accounts_fail _
  | some d =>
    obtain ⟨hten, rfl⟩ := eq_digitChar_of_digit? hdigit
    cases d with
    | zero => exact accounts_begun (.number (.zero false))
    | succ d =>
      have hone : Numeral.AreDigits [d + 1] := by simpa [Numeral.AreDigits] using hten
      exact accounts_begun (.number (.whole false d.succ_pos hone))

/-- A token that ends before a character, which begins what comes next. -/
theorem accounts_before (h : IsTokenText k t) (c : Char) :
    Accounts (k :: (begin c).1, (begin c).2) (t ++ [c]) :=
  fun hwrong => .cons isGap_nil h (accounts_begin c fun hc => hwrong (List.mem_cons_of_mem k hc))

section Step

variable {xs : List Code} {u : List Char} (c : Char)

theorem accounts_word {w r : List Char} (h : IsTokenText k (w ++ r)) :
    Accounts ((Mode.word r k).step c) (w ++ [c]) := by
  match r with
  | [] =>
    rw [List.append_nil] at h
    exact accounts_before h c
  | [d] => exact accounts_ite (fun hc => hc ▸ accounts_token h) fun _ => accounts_fail _
  | d :: e :: r =>
    refine accounts_ite (fun hc => accounts_begun (.word ?_)) fun _ => accounts_fail _
    rw [hc, List.append_assoc]
    exact h

theorem accounts_number {part : NumberPart} {n : Numeral} (h : part.IsBegun n t) :
    Accounts ((Mode.number part n).step c) (t ++ [c]) := by
  unfold Mode.step
  cases hnext : part.next? n c with
  | some next =>
    simp only [hnext]
    exact accounts_begun (.number (h.next hnext))
  | none =>
    simp only [hnext]
    exact accounts_ite (fun hend => accounts_before (.number (h.isText hend)) c)
      fun _ => accounts_fail _

/-- One more code of a string has been read. -/
theorem accounts_piece {x : Code} (h : ArePieces xs t) (hx : IsPiece x u) :
    Accounts ([], .string ((quoted xs).addCode x)) ('"' :: (t ++ u)) := by
  rw [← quoted_concat]
  exact accounts_begun (.string (h.concat hx))

theorem accounts_string (h : ArePieces xs t) :
    Accounts ((Mode.string (quoted xs)).step c) ('"' :: t ++ [c]) := by
  refine accounts_ite (fun hc => ?_) fun hquote => ?_
  · rw [token_quoted, hc]
    exact accounts_token (.string (.quoted h))
  refine accounts_ite (fun hc => hc ▸ accounts_begun (.escape h)) fun hbackslash => ?_
  refine accounts_ite (fun _ => accounts_fail _) fun hcontrol => ?_
  exact accounts_piece h (.plain hquote hbackslash (Nat.le_of_not_lt hcontrol))

theorem accounts_escape (h : ArePieces xs t) :
    Accounts ((Mode.escape (quoted xs)).step c) ('"' :: (t ++ ['\\']) ++ [c]) := by
  rw [List.cons_append, List.append_assoc, List.singleton_append]
  refine accounts_ite (fun hc => hc ▸ accounts_begun (.hex h .nil)) fun _ => ?_
  cases hescaped : escaped? c with
  | none => exact accounts_fail _
  | some d => exact accounts_piece h (.short hescaped)

theorem accounts_hex {digits v : ℕ} (h : ArePieces xs t) (hu : IsHex digits v u) :
    Accounts ((Mode.hex (quoted xs) digits v).step c) ('"' :: (t ++ '\\' :: 'u' :: u) ++ [c]) := by
  rw [List.cons_append, List.append_assoc, List.cons_append, List.cons_append]
  unfold Mode.step
  cases hdigit : hexDigit? c with
  | none => exact accounts_fail _
  | some d =>
    have hnext := hu.concat hdigit
    simp only
    refine accounts_ite (fun hthree => ?_) fun _ => accounts_begun (.hex h hnext)
    subst hthree
    rw [Quoted.addUnit_eq]
    exact accounts_piece h hnext.isPiece

/-- One more character leads from the beginning of a token to its end or to a longer beginning. -/
theorem Mode.IsBegun.step (h : m.IsBegun t) : Accounts (m.step c) (t ++ [c]) := by
  cases h with
  | word h => exact accounts_word c h
  | number h => exact accounts_number c h
  | string h => exact accounts_string c h
  | escape h => exact accounts_escape c h
  | hex h hu => exact accounts_hex c h hu

end Step

/-- One more character adds to the tokens what the automaton makes of it. -/
theorem Mode.Leads.step (h : Leads ks m t) (c : Char) (hwrong : .wrong ∉ (m.step c).1) :
    (m.step c).2.Leads (ks ++ (m.step c).1) (t ++ [c]) := by
  induction h with
  | between hg => exact (accounts_begin c hwrong).gap_append hg
  | inside hg h =>
    rw [List.append_assoc]
    exact (h.step c hwrong).gap_append hg
  | cons hg h _ ih =>
    rw [List.append_assoc, List.append_assoc]
    exact .cons hg h (ih hwrong)

/-- The token that is still open at the end of a text is complete there. -/
theorem Mode.Leads.finish (h : Leads ks m t) (hwrong : .wrong ∉ m.finish) :
    AreTokens (ks ++ m.finish) t := by
  induction h with
  | between hg => exact .gap hg
  | @inside m g t hg h =>
    have hlast {k : Token} (h : IsTokenText k t) : AreTokens [k] (g ++ t) := by
      simpa using AreTokens.cons hg h (.gap isGap_nil)
    cases h with
    | @word k w r h =>
      cases r with
      | nil => exact hlast (by simpa using h)
      | cons d r => exact absurd (List.mem_singleton_self _) hwrong
    | @number part n t h =>
      by_cases hend : part.mayEnd none = true
      · simp only [Mode.finish, if_pos hend]
        exact hlast (.number (h.isText hend))
      · simp [Mode.finish, hend] at hwrong
    | string h => exact absurd (List.mem_singleton_self _) hwrong
    | escape h => exact absurd (List.mem_singleton_self _) hwrong
    | hex h hu => exact absurd (List.mem_singleton_self _) hwrong
  | cons hg h _ ih => exact .cons hg h (ih hwrong)

theorem Mode.Leads.areTokens (h : Leads ks m t) {r : List Char} (hwrong : .wrong ∉ m.tokens r) :
    AreTokens (ks ++ m.tokens r) (t ++ r) := by
  induction r generalizing ks m t with
  | nil =>
    rw [List.append_nil]
    exact h.finish hwrong
  | cons c r ih =>
    rw [tokens_cons] at hwrong ⊢
    obtain ⟨hfirst, hrest⟩ := not_or.mp (List.mem_append.not.mp hwrong)
    have hall := ih (h.step c hfirst) hrest
    rwa [List.append_assoc, List.append_assoc, List.singleton_append] at hall

/-- A text is made of the tokens that are taken from it. -/
theorem areTokens_tokens {s : List Char} (h : .wrong ∉ tokens s) : AreTokens (tokens s) s :=
  Mode.Leads.areTokens (.between isGap_nil) h

end Automaton

end Testbed.Json
