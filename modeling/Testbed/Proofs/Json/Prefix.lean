import Testbed.Proofs.Json.Reading

/-!
# Where an object ends

The text of an object ends at its own bracket, and whatever stands behind it is taken apart on its
own. So if a text spells an object, no beginning of it is a text unless only space is left out: an
object cannot be ended early by what is inside of it.
-/

namespace Testbed.Json

def Mode.IsOpen : Mode → Prop
  | .between | .stopped => False
  | _ => True

def Begun (x : List Token × Mode) : Prop := x.1 ≠ [] ∨ x.2.IsOpen

section Tokens

variable {m : Mode} {s t : List Char} {c : Char}

theorem begun_token (k : Token) (ks : List Token) (m : Mode) : Begun (k :: ks, m) :=
  .inl (List.cons_ne_nil k ks)

theorem begun_ite {p : Prop} [Decidable p] {x y : List Token × Mode} (hx : Begun x)
    (hy : Begun y) : Begun (if p then x else y) := by
  by_cases hp : p
  · rwa [if_pos hp]
  · rwa [if_neg hp]

/-- A character that is read inside a token completes it, is wrong, or leaves it open. -/
theorem begun_step (hm : m.IsOpen) (c : Char) : Begun (m.step c) := by
  unfold Mode.step
  cases m with
  | between => cases hm
  | stopped => cases hm
  | word rest t =>
    match rest with
    | [] => exact begun_token _ _ _
    | [d] => exact begun_ite (begun_token _ _ _) (begun_token _ _ _)
    | d :: e :: r => exact begun_ite (.inr trivial) (begun_token _ _ _)
  | number part n =>
    cases hnext : part.next? n c with
    | some next => exact .inr (by simp [hnext, Mode.IsOpen])
    | none =>
      simp only [hnext]
      exact begun_ite (begun_token _ _ _) (begun_token _ _ _)
  | string q =>
    exact begun_ite (begun_token _ _ _)
      (begun_ite (.inr trivial) (begun_ite (begun_token _ _ _) (.inr trivial)))
  | escape q =>
    refine begun_ite (.inr trivial) ?_
    cases escaped? c with
    | some d => exact .inr trivial
    | none => exact begun_token _ _ _
  | hex q digits value =>
    cases hexDigit? c with
    | some d => exact begun_ite (.inr trivial) (.inr trivial)
    | none => exact begun_token _ _ _

/-- A character that is no space begins a token. -/
theorem begun_begin (hc : isSpace c = false) : Begun (begin c) := by
  unfold begin
  rw [if_neg (by simp [hc])]
  iterate 6 refine begun_ite (begun_token _ _ _) ?_
  iterate 5 refine begun_ite (.inr trivial) ?_
  cases digit? c with
  | none => exact begun_token _ _ _
  | some d => cases d <;> exact .inr trivial

/-- What has begun leaves a token, complete or wrong. -/
theorem tokens_ne_nil (hm : m.IsOpen) (s : List Char) : m.tokens s ≠ [] := by
  induction s generalizing m with
  | nil =>
    change m.finish ≠ []
    cases m with
    | between => cases hm
    | stopped => cases hm
    | word rest t => cases rest <;> simp [Mode.finish]
    | number part n => by_cases hend : part.mayEnd none = true <;> simp [Mode.finish, hend]
    | _ => simp [Mode.finish]
  | cons c s ih =>
    rw [tokens_cons]
    intro h
    obtain ⟨hfirst, hrest⟩ := List.append_eq_nil_iff.mp h
    obtain hne | hopen := begun_step hm c
    · exact hne hfirst
    · exact ih hopen hrest

theorem isGap_of_tokens (h : Mode.between.tokens s = []) : IsGap s := by
  induction s with
  | nil => exact isGap_nil
  | cons c s ih =>
    rw [tokens_cons] at h
    obtain ⟨hfirst, hrest⟩ := List.append_eq_nil_iff.mp h
    cases hc : isSpace c with
    | false =>
      obtain hne | hopen := begun_begin hc
      · exact absurd hfirst hne
      · exact absurd hrest (tokens_ne_nil hopen s)
    | true =>
      have hstep : Mode.between.step c = ([], .between) := by simp [Mode.step, begin, hc]
      rw [hstep] at hrest
      exact List.forall_mem_cons.mpr ⟨hc, ih hrest⟩

end Tokens

section Objects

variable {j j₀ : Json} {t rest : List Char}

theorem tokens_object : ∀ {j : Json} {t : List Char}, IsText j t →
    ∀ {ms : List (Option String × Json)} {closed : Bool}, j = .object ms closed →
      ∀ r, Mode.between.tokens (t ++ r) = j.written ++ Mode.between.tokens r
  | _, _, .spaced hg h hg', _, _, hj, r => by
    rw [List.append_assoc, List.append_assoc, tokens_gap hg, tokens_object h hj, tokens_gap hg']
  | _, _, .emptyObject hg, _, _, _, r => by
    rw [List.cons_append, List.append_assoc, List.singleton_append,
      tokens_mark '\x7b' .openObject rfl, tokens_gap hg, tokens_mark '\x7d' .closeObject rfl]
    rfl
  | _, _, .object h, _, _, _, r => by
    rw [List.cons_append, List.append_assoc, List.singleton_append,
      tokens_mark '\x7b' .openObject rfl, tokens_members h (ends_cons (by decide) r),
      tokens_mark '\x7d' .closeObject rfl, written, List.cons_append, List.append_assoc,
      List.singleton_append]

theorem ne_nil_of_isText (h : IsText j t) : t ≠ [] := by
  rintro rfl
  have htokens := tokens_of_isText h
  cases j with
  | broken => cases h.intact
  | _ => cases htokens

/-- A text that begins with the bracket of an object spells an object. -/
theorem exists_object_of_isText (h : IsText j ('\x7b' :: t)) :
    ∃ ms closed, j = .object ms closed := by
  have htokens := tokens_of_isText h
  rw [tokens_mark '\x7b' .openObject rfl] at htokens
  cases j with
  | object ms closed => exact ⟨ms, closed, rfl⟩
  | _ => cases htokens

theorem run_done (j : Json) (ks : List Token) :
    (Progress.done j false).run ks = .done j false := by
  induction ks with
  | nil => rfl
  | cons k ks ih => exact ih

/-- Behind the bracket at which an object ends a text of it has nothing but space. -/
theorem eq_and_isGap_of_prefix (h : IsText j ('\x7b' :: t))
    (h₀ : IsText j₀ ('\x7b' :: t ++ rest)) : j = j₀ ∧ IsGap rest := by
  obtain ⟨ms, closed, hj⟩ := exists_object_of_isText h
  have hwritten : j₀.written ++ [] = j.written ++ Mode.between.tokens rest := by
    rw [List.append_nil, ← tokens_of_isText h₀, tokens_object h hj]
  -- the shorter tree is complete before the tokens of the rest, which must not go on
  have hrun := run_written h₀.intact (.inl rfl) [] []
  rw [hwritten, run_written h.intact (.inl rfl)] at hrun
  cases hks : Mode.between.tokens rest with
  | nil =>
    rw [hks] at hrun
    cases hrun
    exact ⟨rfl, isGap_of_tokens hks⟩
  | cons k ks =>
    have hdone : (place [] j).run (k :: ks) = .done j false := run_done j ks
    rw [hks, hdone] at hrun
    cases hrun

end Objects

end Testbed.Json
