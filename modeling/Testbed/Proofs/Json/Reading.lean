import Testbed.Proofs.Json.Grammar

/-!
# Reading JSON texts

Every text of the grammar is read as the tree that it spells. The automaton takes it apart into the
tokens of the tree, whatever stands behind it, and the tokens of a tree are put together to the
tree.
-/

namespace Testbed.Json

def Quoted.addCode (q : Quoted) : Code → Quoted
  | .char c => q.add c
  | .leading n => { q.settle with leading := some n }
  | .trailing n =>
    match q.leading with
    | some h =>
      { q with
        reversed := Char.ofNat (0x10000 + (h - 0xD800) * 0x400 + (n - 0xDC00)) :: q.reversed
        leading := none }
    | none => { q with alone := true }

theorem tokens_cons (m : Mode) (c : Char) (r : List Char) :
    m.tokens (c :: r) = (m.step c).1 ++ (m.step c).2.tokens r := rfl

section Strings

variable {q : Quoted} {xs : List Code} {t : List Char}

theorem Quoted.addUnit_eq (q : Quoted) (n : ℕ) : q.addUnit n = q.addCode (.ofNat n) := by
  unfold addUnit Code.ofNat
  split_ifs <;> rfl

theorem Quoted.alone_addCode (h : q.alone = true) (x : Code) : (q.addCode x).alone = true := by
  cases x with
  | trailing n => cases hq : q.leading <;> simp [addCode, hq, h]
  | _ => simp [addCode, add, settle, h]

theorem Quoted.token_of_alone (h : q.alone = true) (xs : List Code) :
    (xs.foldl addCode q).token = .string none := by
  induction xs generalizing q with
  | nil => simp [token, settle, h]
  | cons x xs ih => exact ih (alone_addCode h x)

/-- The token of a string is what its codes are joined to. -/
theorem Quoted.token_foldl (h : q.alone = false) (hq : q.leading = none) (xs : List Code) :
    (xs.foldl addCode q).token =
      .string ((Code.join xs).map fun s => String.ofList (q.reversed.reverse ++ s)) := by
  fun_induction Code.join xs generalizing q with
  | case1 => simp [token, settle, h, hq]
  | case2 c r ih =>
    rw [List.foldl_cons, ih]
    · simp [addCode, add, settle, Function.comp_def]
    · simp [addCode, add, settle, h, hq]
    · simp [addCode, add, settle, h, hq]
  | case3 lead trail r ih =>
    rw [List.foldl_cons, List.foldl_cons, ih]
    · simp [addCode, settle, Function.comp_def]
    · simp [addCode, settle, h, hq]
    · simp [addCode, settle]
  | case4 lead r hr =>
    -- whatever comes next but its partner leaves the leading surrogate alone
    cases r with
    | nil => simp [addCode, token, settle]
    | cons x r =>
      cases x with
      | trailing n => exact absurd rfl (hr n r)
      | _ => exact token_of_alone (by simp [addCode, add, settle]) r
  | case5 trail r => exact token_of_alone (by simp [addCode, hq]) r

theorem tokens_piece {x : Code} (h : IsPiece x t) (q : Quoted) (r : List Char) :
    (Mode.string q).tokens (t ++ r) = (Mode.string (q.addCode x)).tokens r := by
  cases h with
  | plain hquote hbackslash hcontrol =>
    simp [Mode.tokens, Mode.step, hquote, hbackslash, Nat.not_lt.mpr hcontrol, Quoted.addCode]
  | @short letter c h =>
    have hletter : letter ≠ 'u' := by
      rintro rfl
      cases h
    simp [Mode.tokens, Mode.step, hletter, h, Quoted.addCode]
  | unit ha hb hc hd =>
    simp [Mode.tokens, Mode.step, ha, hb, hc, hd, Quoted.addUnit_eq]

theorem tokens_pieces (h : ArePieces xs t) (q : Quoted) (r : List Char) :
    (Mode.string q).tokens (t ++ r) = (Mode.string (xs.foldl Quoted.addCode q)).tokens r := by
  induction h generalizing q with
  | nil => rfl
  | cons h _ ih => rw [List.append_assoc, tokens_piece h, ih, List.foldl_cons]

theorem tokens_string {text : Option String} (h : IsString text t) (r : List Char) :
    Mode.between.tokens (t ++ r) = .string text :: Mode.between.tokens r := by
  obtain ⟨hpieces⟩ := h
  have hstart : Mode.between.step '"' = ([], .string .start) := rfl
  have hend (q : Quoted) : (Mode.string q).step '"' = ([q.token], .between) := rfl
  rw [List.cons_append, List.append_assoc, tokens_cons, hstart, List.nil_append,
    tokens_pieces hpieces, List.singleton_append, tokens_cons, hend,
    Quoted.token_foldl rfl rfl]
  rfl

end Strings

/-- What may stand behind a number: the end of the text, space, or what separates or closes. -/
def Ends (r : List Char) : Prop := ∀ c ∈ r.head?, isSpace c = true ∨ c ∈ [',', ']', '\x7d']

section Numbers

variable {n : Numeral} {ds : List ℕ} {t r : List Char}

theorem digit?_digitChar {d : ℕ} (h : d < 10) : digit? (Nat.digitChar d) = some d := by
  revert d
  decide

theorem begin_digitChar {d : ℕ} (hpos : 0 < d) (h : d < 10) :
    begin (Nat.digitChar d) = ([], .number .whole ⟨false, [d], [], false, []⟩) := by
  revert hpos
  revert d
  decide

theorem NumberPart.ends {part : NumberPart} (hp : part.mayEnd none = true) {c : Char}
    (hc : isSpace c = true ∨ c ∈ [',', ']', '\x7d']) :
    part.next? n c = none ∧ part.mayEnd (some c) = true := by
  have hchars : c ∈ [' ', '\t', '\n', '\r', ',', ']', '\x7d'] := by
    simpa [isSpace, or_assoc] using hc
  have hdigit : ∀ c ∈ [' ', '\t', '\n', '\r', ',', ']', '\x7d'],
      c.isDigit = false ∧ c ≠ '.' ∧ c ≠ 'e' ∧ c ≠ 'E' := by simp [Char.isDigit]
  obtain ⟨hno, hpoint, he, hE⟩ := hdigit c hchars
  cases part with
  | zero | whole | fraction | exponent => simp [next?, mayEnd, digit?, hno, hpoint, he, hE]
  | _ => cases hp

/-- A number ends where nothing continues it. -/
theorem tokens_ended {part : NumberPart} (hp : part.mayEnd none = true) (n : Numeral)
    (hr : Ends r) : (Mode.number part n).tokens r = .number n :: Mode.between.tokens r := by
  cases r with
  | nil => simp [Mode.tokens, Mode.finish, hp]
  | cons c r =>
    obtain ⟨hnext, hend⟩ := NumberPart.ends (n := n) hp (hr c rfl)
    have hstep : (Mode.number part n).step c = (.number n :: (begin c).1, (begin c).2) := by
      simp [Mode.step, hnext, hend]
    rw [tokens_cons, hstep]
    rfl

/-- Digits that continue a part of a number are put at its end. -/
theorem tokens_digits (part : NumberPart) (put : Numeral → List ℕ → Numeral)
    (hnil : ∀ n, put n [] = n) (hcons : ∀ n d ds, put n (d :: ds) = put (put n [d]) ds)
    (hnext : ∀ n d, d < 10 → part.next? n (Nat.digitChar d) = some (part, put n [d]))
    (h : Numeral.AreDigits ds) (n : Numeral) (r : List Char) :
    (Mode.number part n).tokens (Numeral.digits ds ++ r) =
      (Mode.number part (put n ds)).tokens r := by
  induction ds generalizing n with
  | nil => rw [hnil]; rfl
  | cons d ds ih =>
    obtain ⟨hd, hds⟩ := List.forall_mem_cons.mp h
    have hstep : (Mode.number part n).step (Nat.digitChar d) = ([], .number part (put n [d])) := by
      simp [Mode.step, hnext n d hd]
    rw [Numeral.digits, List.map_cons, List.cons_append, tokens_cons, hstep, List.nil_append,
      ← Numeral.digits, ih hds, ← hcons]

def NumberPart.IsMantissa (part : NumberPart) : Prop :=
  part = .zero ∨ part = .whole ∨ part = .fraction

theorem tokens_whole (negative : Bool) (h : Numeral.IsWhole ds t) :
    ∃ part, (part = .zero ∨ part = .whole) ∧ ∀ r,
      Mode.between.tokens ((if negative then ['-'] else []) ++ (t ++ r)) =
        (Mode.number part ⟨negative, ds, [], false, []⟩).tokens r := by
  cases h with
  | zero =>
    refine ⟨.zero, .inl rfl, fun r => ?_⟩
    cases negative <;> rfl
  | @nonzero d ds hd h =>
    obtain ⟨hten, hds⟩ := List.forall_mem_cons.mp h
    refine ⟨.whole, .inr rfl, fun r => ?_⟩
    have hfirst : Mode.between.step (Nat.digitChar d) =
        ([], .number .whole ⟨false, [d], [], false, []⟩) := begin_digitChar hd hten
    have hsigned : (Mode.number .minus ⟨true, [], [], false, []⟩).step (Nat.digitChar d) =
        ([], .number .whole ⟨true, [d], [], false, []⟩) := by
      simp [Mode.step, NumberPart.next?, digit?_digitChar hten, hd.ne']
    have hrest (n : Numeral) := tokens_digits .whole
      (fun n ds => { n with whole := n.whole ++ ds }) (by simp) (by simp)
      (fun n d hd => by simp [NumberPart.next?, digit?_digitChar hd]) hds n r
    rw [Numeral.digits, List.map_cons, List.cons_append, ← Numeral.digits]
    cases negative with
    | false =>
      rw [if_neg Bool.false_ne_true, List.nil_append, tokens_cons, hfirst, List.nil_append, hrest]
      rfl
    | true =>
      have hminus : Mode.between.step '-' = ([], .number .minus ⟨true, [], [], false, []⟩) := rfl
      rw [if_pos rfl, List.singleton_append, tokens_cons, hminus, List.nil_append, tokens_cons,
        hsigned, List.nil_append, hrest]
      rfl

theorem tokens_fraction {part : NumberPart} (hp : part = .zero ∨ part = .whole)
    (h : Numeral.IsFraction ds t) (hn : n.fraction = []) :
    ∃ part' : NumberPart, part'.IsMantissa ∧ ∀ r, (Mode.number part n).tokens (t ++ r) =
      (Mode.number part' { n with fraction := ds }).tokens r := by
  cases h with
  | none =>
    refine ⟨part, hp.imp_right .inl, fun r => ?_⟩
    rw [← hn]
    rfl
  | @some d ds h =>
    obtain ⟨hd, hds⟩ := List.forall_mem_cons.mp h
    refine ⟨.fraction, .inr (.inr rfl), fun r => ?_⟩
    have hpoint : (Mode.number part n).step '.' = ([], .number .point n) := by
      obtain rfl | rfl := hp <;> rfl
    have hfirst : (Mode.number .point n).step (Nat.digitChar d) =
        ([], .number .fraction { n with fraction := [d] }) := by
      simp [Mode.step, NumberPart.next?, digit?_digitChar hd]
    have hrest (n : Numeral) := tokens_digits .fraction
      (fun n ds => { n with fraction := n.fraction ++ ds }) (by simp) (by simp)
      (fun n d hd => by simp [NumberPart.next?, digit?_digitChar hd]) hds n r
    rw [List.cons_append, tokens_cons, hpoint, List.nil_append, Numeral.digits, List.map_cons,
      List.cons_append, tokens_cons, hfirst, List.nil_append, ← Numeral.digits, hrest]
    rfl

theorem tokens_exponent {part : NumberPart} (hp : part.IsMantissa) {negative : Bool}
    (h : Numeral.IsExponent negative ds t) (hn : n.exponentNegative = false ∧ n.exponent = []) :
    ∃ part' : NumberPart, part'.mayEnd none = true ∧ ∀ r, (Mode.number part n).tokens (t ++ r) =
      (Mode.number part' { n with exponentNegative := negative, exponent := ds }).tokens r := by
  cases h with
  | none =>
    refine ⟨part, by obtain rfl | rfl | rfl := hp <;> rfl, fun r => ?_⟩
    rw [← hn.1, ← hn.2]
    rfl
  | @some _ mark sign d ds hmark hsign h =>
    obtain ⟨hd, hds⟩ := List.forall_mem_cons.mp h
    refine ⟨.exponent, rfl, fun r => ?_⟩
    have hbegin : (Mode.number part n).step mark = ([], .number .mark n) := by
      obtain rfl | rfl | rfl := hp <;> obtain rfl | rfl := hmark <;> rfl
    have hrest (n : Numeral) := tokens_digits .exponent
      (fun n ds => { n with exponent := n.exponent ++ ds }) (by simp) (by simp)
      (fun n d hd => by simp [NumberPart.next?, digit?_digitChar hd]) hds n r
    have hfirst (part : NumberPart) (hpart : part = .mark ∨ part = .sign) (n : Numeral) :
        (Mode.number part n).step (Nat.digitChar d) =
          ([], .number .exponent { n with exponent := [d] }) := by
      obtain rfl | rfl := hpart <;>
        simp [Mode.step, NumberPart.next?, digit?_digitChar hd]
    rw [Numeral.digits, List.map_cons, List.cons_append, List.append_assoc, List.cons_append,
      tokens_cons, hbegin, List.nil_append, ← Numeral.digits]
    cases hsign with
    | none =>
      rw [List.nil_append, tokens_cons, hfirst _ (.inl rfl), List.nil_append, hrest, ← hn.1]
      rfl
    | plus =>
      have hplus : (Mode.number .mark n).step '+' = ([], .number .sign n) := rfl
      rw [List.singleton_append, tokens_cons, hplus, List.nil_append, tokens_cons,
        hfirst _ (.inr rfl), List.nil_append, hrest, ← hn.1]
      rfl
    | minus =>
      have hminus : (Mode.number .mark n).step '-' =
        ([], .number .sign { n with exponentNegative := true }) := rfl
      rw [List.singleton_append, tokens_cons, hminus, List.nil_append, tokens_cons,
        hfirst _ (.inr rfl), List.nil_append, hrest]
      rfl

/-- The text of a number is its one token. -/
theorem tokens_number (h : n.IsText t) (hr : Ends r) :
    Mode.between.tokens (t ++ r) = .number n :: Mode.between.tokens r := by
  obtain ⟨hw, hf, he⟩ := h
  obtain ⟨part, hpart, hwhole⟩ := tokens_whole n.negative hw
  obtain ⟨part', hpart', hfraction⟩ := tokens_fraction
    (n := ⟨n.negative, n.whole, [], false, []⟩) hpart hf rfl
  obtain ⟨part'', hpart'', hexponent⟩ := tokens_exponent
    (n := ⟨n.negative, n.whole, n.fraction, false, []⟩) hpart' he ⟨rfl, rfl⟩
  rw [List.append_assoc, List.append_assoc, List.append_assoc, hwhole, hfraction, hexponent,
    tokens_ended hpart'' _ hr]

end Numbers

mutual

def written : Json → List Token
  | .null => [.null]
  | .bool b => [.bool b]
  | .number n => [.number n]
  | .string text => [.string text]
  | .array items _ => .openArray :: (writtenItems items ++ [.closeArray])
  | .object members _ => .openObject :: (writtenMembers members ++ [.closeObject])
  | .broken => []

def writtenItems : List Json → List Token
  | [] => []
  | [j] => j.written
  | j :: k :: r => j.written ++ .comma :: writtenItems (k :: r)

def writtenMembers : List (Option String × Json) → List Token
  | [] => []
  | [(key, j)] => .string key :: .colon :: j.written
  | (key, j) :: m :: r => .string key :: .colon :: (j.written ++ .comma :: writtenMembers (m :: r))

end

section Trees

variable {g r : List Char}

theorem tokens_gap (h : IsGap g) (r : List Char) :
    Mode.between.tokens (g ++ r) = Mode.between.tokens r := by
  induction g with
  | nil => rfl
  | cons c g ih =>
    obtain ⟨hc, hg⟩ := List.forall_mem_cons.mp h
    have hstep : Mode.between.step c = ([], .between) := by simp [Mode.step, begin, hc]
    rw [List.cons_append, tokens_cons, hstep, List.nil_append, ih hg]

theorem Ends.gap_append (h : IsGap g) (hr : Ends r) : Ends (g ++ r) := by
  cases g with
  | nil => exact hr
  | cons c g =>
    intro d hd
    obtain rfl : c = d := by simpa using hd
    exact .inl (h c List.mem_cons_self)

theorem tokens_mark (c : Char) (k : Token) (h : begin c = ([k], .between)) (r : List Char) :
    Mode.between.tokens (c :: r) = k :: Mode.between.tokens r := by
  rw [tokens_cons, show Mode.between.step c = begin c from rfl, h, List.singleton_append]

theorem ends_cons {c : Char} (hc : c ∈ [',', ']', '\x7d']) (r : List Char) : Ends (c :: r) := by
  intro d hd
  obtain rfl : c = d := by simpa using hd
  exact .inr hc

mutual

/-- The text of a tree is taken apart into the tokens of the tree. -/
theorem tokens_text : ∀ {j : Json} {t : List Char}, IsText j t → ∀ {r : List Char}, Ends r →
    Mode.between.tokens (t ++ r) = j.written ++ Mode.between.tokens r
  | _, _, .spaced hg h hg', r, hr => by
    rw [List.append_assoc, List.append_assoc, tokens_gap hg, tokens_text h (hr.gap_append hg'),
      tokens_gap hg']
  | _, _, .null, r, _ => rfl
  | _, _, .true, r, _ => rfl
  | _, _, .false, r, _ => rfl
  | _, _, .number h, r, hr => by rw [tokens_number h hr, written, List.singleton_append]
  | _, _, .string h, r, _ => by rw [tokens_string h, written, List.singleton_append]
  | _, _, .emptyArray hg, r, _ => by
    rw [List.cons_append, List.append_assoc, List.singleton_append,
      tokens_mark '[' .openArray rfl, tokens_gap hg, tokens_mark ']' .closeArray rfl]
    rfl
  | _, _, .array h, r, _ => by
    rw [List.cons_append, List.append_assoc, List.singleton_append,
      tokens_mark '[' .openArray rfl, tokens_items h (ends_cons (by decide) r),
      tokens_mark ']' .closeArray rfl, written, List.cons_append, List.append_assoc,
      List.singleton_append]
  | _, _, .emptyObject hg, r, _ => by
    rw [List.cons_append, List.append_assoc, List.singleton_append,
      tokens_mark '\x7b' .openObject rfl, tokens_gap hg, tokens_mark '\x7d' .closeObject rfl]
    rfl
  | _, _, .object h, r, _ => by
    rw [List.cons_append, List.append_assoc, List.singleton_append,
      tokens_mark '\x7b' .openObject rfl, tokens_members h (ends_cons (by decide) r),
      tokens_mark '\x7d' .closeObject rfl, written, List.cons_append, List.append_assoc,
      List.singleton_append]

theorem tokens_items : ∀ {items : List Json} {t : List Char}, AreItems items t →
    ∀ {r : List Char}, Ends r →
      Mode.between.tokens (t ++ r) = writtenItems items ++ Mode.between.tokens r
  | _, _, .last h, r, hr => tokens_text h hr
  | _, _, .cons h h', r, hr => by
    rw [List.append_assoc, List.cons_append, tokens_text h (ends_cons (by decide) _),
      tokens_mark ',' .comma rfl, tokens_items h' hr]
    cases h' <;> simp [writtenItems]

theorem tokens_members : ∀ {members : List (Option String × Json)} {t : List Char},
    AreMembers members t → ∀ {r : List Char}, Ends r →
      Mode.between.tokens (t ++ r) = writtenMembers members ++ Mode.between.tokens r
  | _, _, .last hg hk hg' h, r, hr => by
    rw [List.append_assoc, List.append_assoc, List.append_assoc, List.cons_append, tokens_gap hg,
      tokens_string hk, tokens_gap hg', tokens_mark ':' .colon rfl, tokens_text h hr]
    rfl
  | _, _, .cons hg hk hg' h h', r, hr => by
    rw [List.append_assoc, List.append_assoc, List.append_assoc, List.cons_append,
      List.append_assoc, List.cons_append, tokens_gap hg, tokens_string hk, tokens_gap hg',
      tokens_mark ':' .colon rfl, tokens_text h (ends_cons (by decide) _),
      tokens_mark ',' .comma rfl, tokens_members h' hr]
    cases h' <;> simp [writtenMembers]

end

theorem tokens_of_isText {j : Json} {t : List Char} (h : IsText j t) :
    Mode.between.tokens t = j.written := by
  have hall := tokens_text h (r := []) (by simp [Ends])
  simpa [Mode.tokens, Mode.finish] using hall

end Trees

section Building

def Awaited.TakesValue (a : Awaited) : Prop := a = .value ∨ a = .itemOrClose

theorem run_cons (p : Progress) (k : Token) (ts : List Token) :
    p.run (k :: ts) = (p.step k).run ts := rfl

theorem step_start {a : Awaited} (ha : a.TakesValue) {k : Token} {stack : List Frame}
    {p : Progress} (h : startValue stack k = some p) : (Progress.reading stack a).step k = p := by
  obtain rfl | rfl := ha
  · simp [Progress.step, advance?, h]
  · have hk : k ≠ .closeArray := by
      rintro rfl
      cases h
    simp [Progress.step, advance?, h, hk]

theorem step_key {a : Awaited} (ha : a = .keyOrClose ∨ a = .key)
    (before : List (Option String × Json)) (stack : List Frame) (key : Option String) :
    (Progress.reading (.object before :: stack) a).step (.string key) =
      .reading (.member before key :: stack) .colon := by
  obtain rfl | rfl := ha <;> rfl

theorem step_colon (stack : List Frame) :
    (Progress.reading stack .colon).step .colon = .reading stack .value := rfl

mutual

/-- The tokens of a tree are put together to the tree. -/
theorem run_written : ∀ {j : Json}, j.intact = true → ∀ {a : Awaited}, a.TakesValue →
    ∀ (stack : List Frame) (ts : List Token),
      (Progress.reading stack a).run (j.written ++ ts) = (place stack j).run ts
  | .null, _, a, ha, stack, ts => by
    rw [written, List.singleton_append, run_cons, step_start ha rfl]
  | .bool b, _, a, ha, stack, ts => by
    rw [written, List.singleton_append, run_cons, step_start ha rfl]
  | .number n, _, a, ha, stack, ts => by
    rw [written, List.singleton_append, run_cons, step_start ha rfl]
  | .string text, _, a, ha, stack, ts => by
    rw [written, List.singleton_append, run_cons, step_start ha rfl]
  | .array items closed, h, a, ha, stack, ts => by
    obtain ⟨hitems, rfl⟩ : intactItems items = true ∧ closed = true := by simpa [intact] using h
    rw [written, List.cons_append, List.append_assoc, List.singleton_append, run_cons,
      step_start ha rfl]
    by_cases hempty : items = []
    · subst hempty
      rfl
    · exact run_items hitems (.inr rfl) hempty [] stack ts
  | .object members closed, h, a, ha, stack, ts => by
    obtain ⟨hmembers, rfl⟩ : intactMembers members = true ∧ closed = true := by
      simpa [intact] using h
    rw [written, List.cons_append, List.append_assoc, List.singleton_append, run_cons,
      step_start ha rfl]
    by_cases hempty : members = []
    · subst hempty
      rfl
    · exact run_members hmembers (.inl rfl) hempty [] stack ts
  | .broken, h, _, _, _, _ => by cases h

theorem run_items : ∀ {items : List Json}, intactItems items = true → ∀ {a : Awaited},
    a.TakesValue → items ≠ [] → ∀ (before : List Json) (stack : List Frame) (ts : List Token),
      (Progress.reading (.array before :: stack) a).run
          (writtenItems items ++ .closeArray :: ts) =
        (place stack (.array (before.reverse ++ items) true)).run ts
  | [], _, _, _, h, _, _, _ => absurd rfl h
  | [j], h, a, ha, _, before, stack, ts => by
    have hj : j.intact = true := by simpa [intactItems] using h
    rw [writtenItems, run_written hj ha, ← List.reverse_cons]
    rfl
  | j :: k :: r, h, a, ha, _, before, stack, ts => by
    obtain ⟨hj, hr⟩ : j.intact = true ∧ intactItems (k :: r) = true := by
      simpa only [intactItems, Bool.and_eq_true] using h
    rw [writtenItems, List.append_assoc, List.cons_append, run_written hj ha,
      List.append_cons before.reverse, ← List.reverse_cons,
      ← run_items hr (.inl rfl) (List.cons_ne_nil k r)]
    rfl

theorem run_members : ∀ {members : List (Option String × Json)}, intactMembers members = true →
    ∀ {a : Awaited}, (a = .keyOrClose ∨ a = .key) → members ≠ [] →
      ∀ (before : List (Option String × Json)) (stack : List Frame) (ts : List Token),
        (Progress.reading (.object before :: stack) a).run
            (writtenMembers members ++ .closeObject :: ts) =
          (place stack (.object (before.reverse ++ members) true)).run ts
  | [], _, _, _, h, _, _, _ => absurd rfl h
  | [(key, j)], h, a, ha, _, before, stack, ts => by
    have hj : j.intact = true := by simpa [intactMembers] using h
    rw [writtenMembers, List.cons_append, List.cons_append, run_cons, step_key ha, run_cons,
      step_colon, run_written hj (.inl rfl), ← List.reverse_cons]
    rfl
  | (key, j) :: m :: r, h, a, ha, _, before, stack, ts => by
    obtain ⟨hj, hr⟩ : j.intact = true ∧ intactMembers (m :: r) = true := by
      simpa only [intactMembers, Bool.and_eq_true] using h
    rw [writtenMembers, List.cons_append, List.cons_append, List.append_assoc, List.cons_append,
      run_cons, step_key ha, run_cons, step_colon, run_written hj (.inl rfl),
      List.append_cons before.reverse, ← List.reverse_cons,
      ← run_members hr (.inr rfl) (List.cons_ne_nil m r)]
    rfl

end

mutual

theorem IsText.intact : ∀ {j : Json} {t : List Char}, IsText j t → j.intact = true
  | _, _, .spaced _ h _ => h.intact
  | _, _, .null | _, _, .true | _, _, .false | _, _, .number _ | _, _, .string _ => rfl
  | _, _, .emptyArray _ | _, _, .emptyObject _ => rfl
  | _, _, .array h => by rw [Json.intact, h.intact, Bool.and_true]
  | _, _, .object h => by rw [Json.intact, h.intact, Bool.and_true]

theorem AreItems.intact : ∀ {items : List Json} {t : List Char}, AreItems items t →
    intactItems items = true
  | _, _, .last h => by rw [intactItems, h.intact, intactItems, Bool.and_true]
  | _, _, .cons h h' => by rw [intactItems, h.intact, h'.intact, Bool.and_true]

theorem AreMembers.intact : ∀ {members : List (Option String × Json)} {t : List Char},
    AreMembers members t → intactMembers members = true
  | _, _, .last _ _ _ h => by rw [intactMembers, h.intact, intactMembers, Bool.and_true]
  | _, _, .cons _ _ _ h h' => by rw [intactMembers, h.intact, h'.intact, Bool.and_true]

end

/-- A text is read as the tree that it spells, and nothing is left of it. -/
theorem ofText_eq {j : Json} {s : String} (h : IsText j s.toList) : ofText s = (j, true) := by
  have htokens : tokens s.toList = j.written := tokens_of_isText h
  have hrun := run_written h.intact (.inl rfl) [] []
  rw [List.append_nil] at hrun
  rw [ofText, htokens, hrun]
  rfl

end Building

end Testbed.Json
