import Mathlib.Data.List.Chain
import Testbed.Proofs.Text.Percent
import Testbed.Text.Lower

/-!
# Lower case is stable

A text in lower case stays as it is when it is put in lower case again. No run of the case map moves
a code point to where a run begins to move others, so a character that has been moved, or that no
run covers, moves no further; and no capital sigma is left whose form could depend on its place.
-/

namespace Testbed.Text

namespace CaseRun

/-- The run moves only code points of one parity, or one alone. -/
def isSparse (r : CaseRun) : Bool := r.step == 2 || r.first == r.last

/-- The code points that the run moves do not get to any that the other run covers. -/
def avoids (r q : CaseRun) : Bool :=
  Nat.blt (r.last + r.shift).toNat q.first || Nat.blt q.last (r.first + r.shift).toNat ||
    (r.isSparse && q.isSparse && Nat.blt 0 (r.first + r.shift).toNat &&
      ((r.first + r.shift).toNat + q.first) % 2 == 1)

variable {r q : CaseRun} {n m : ℕ}

theorem target?_eq_some_iff : r.target? n = some m ↔
    (r.first ≤ n ∧ n ≤ r.last ∧ (n - r.first) % r.step = 0) ∧ (n + r.shift).toNat = m := by
  rw [target?]
  by_cases hcovered : r.first ≤ n ∧ n ≤ r.last ∧ (n - r.first) % r.step = 0
  · rw [if_pos hcovered, Option.some.injEq]
    exact (and_iff_right hcovered).symm
  · rw [if_neg hcovered]
    exact iff_of_false (by simp) fun h => hcovered h.1

theorem even_sub_of_isSparse (h : r.isSparse = true)
    (hn : r.first ≤ n ∧ n ≤ r.last ∧ (n - r.first) % r.step = 0) : (n - r.first) % 2 = 0 := by
  simp only [isSparse, Bool.or_eq_true, beq_iff_eq] at h
  cases h with
  | inl hstep => exact hstep ▸ hn.2.2
  | inr hone => omega

theorem target?_eq_none_of_avoids (havoids : r.avoids q = true) (h : r.target? n = some m) :
    q.target? m = none := by
  obtain ⟨hn, rfl⟩ := target?_eq_some_iff.mp h
  cases hq : q.target? (n + r.shift).toNat with
  | none => rfl
  | some k =>
    exfalso
    obtain ⟨hm, -⟩ := target?_eq_some_iff.mp hq
    simp only [avoids, Bool.or_eq_true, Bool.and_eq_true, beq_iff_eq, Nat.blt_eq] at havoids
    obtain (hbelow | habove) | ⟨⟨⟨hr, hq'⟩, hpos⟩, hparity⟩ := havoids
    · omega
    · omega
    · have hfrom := even_sub_of_isSparse hr hn
      have hto := even_sub_of_isSparse hq' hm
      omega

def reaching (first last : ℕ) : List CaseRun → List CaseRun
  | [] => []
  | q :: qs =>
    bif Nat.blt last q.first then []
    else bif Nat.blt q.last first then reaching first last qs
    else q :: reaching first last qs

theorem mem_reaching {first last : ℕ} {l : List CaseRun}
    (hsorted : l.Pairwise (·.first ≤ ·.first)) (hq : q ∈ l) (hbelow : q.first ≤ last)
    (habove : first ≤ q.last) : q ∈ reaching first last l := by
  induction l with
  | nil => cases hq
  | cons p l ih =>
    obtain ⟨hp, hl⟩ := List.pairwise_cons.mp hsorted
    have hle : p.first ≤ q.first := by
      obtain rfl | hq := List.mem_cons.mp hq
      · exact Nat.le_refl _
      · exact hp q hq
    have hstart : Nat.blt last p.first = false := by
      rw [← Bool.not_eq_true, Nat.blt_eq]
      omega
    rw [reaching, hstart, cond_false]
    by_cases hend : Nat.blt p.last first = true
    · rw [hend, cond_true]
      obtain rfl | hq := List.mem_cons.mp hq
      · rw [Nat.blt_eq] at hend
        omega
      · exact ih hl hq
    · rw [Bool.not_eq_true] at hend
      rw [hend, cond_false]
      obtain rfl | hq := List.mem_cons.mp hq
      · exact List.mem_cons_self
      · exact List.mem_cons_of_mem p (ih hl hq)

/-- A run avoids all of a sorted list if it avoids those that reach into the span where it moves
its ends. -/
theorem avoids_of_reaching {l : List CaseRun} (hsorted : l.Pairwise (·.first ≤ ·.first))
    (h : ∀ q ∈ reaching (r.first + r.shift).toNat (r.last + r.shift).toNat l, r.avoids q = true)
    (hq : q ∈ l) : r.avoids q = true := by
  by_cases hbelow : (r.last + r.shift).toNat < q.first
  · simp [avoids, Nat.blt_eq, hbelow]
  by_cases habove : q.last < (r.first + r.shift).toNat
  · simp [avoids, Nat.blt_eq, habove]
  · exact h q (mem_reaching hsorted hq (Nat.le_of_not_lt hbelow) (Nat.le_of_not_lt habove))

end CaseRun

def IsLow (c : Char) : Prop := lowerChar c = [c] ∧ c.toNat ≠ 0x3A3

/-- The dotted capital I, which has a rule of its own, written as a run. -/
def dottedRun : CaseRun := ⟨0x130, 0x130, 1, 0⟩

/-- The letters that the rules beyond the runs give: a small i, the dot above it and both small
sigmas. -/
def ruled : List ℕ := [0x69, 0x307, 0x3C2, 0x3C3]

/-- The runs are sorted, each avoids those in its reach, and no run covers a letter that a rule
gives. -/
theorem caseRuns_checked : caseRuns.IsChain (·.first ≤ ·.first) ∧
    (caseRuns.all fun r => r.avoids dottedRun &&
      (CaseRun.reaching (r.first + r.shift).toNat (r.last + r.shift).toNat caseRuns).all
        r.avoids) = true ∧
    (ruled.all fun n => (dottedRun :: caseRuns).all fun q => (q.target? n).isNone) = true := by
  decide +kernel

theorem pairwise_caseRuns : caseRuns.Pairwise (·.first ≤ ·.first) := by
  have htrans : IsTrans CaseRun (·.first ≤ ·.first) := ⟨fun _ _ _ => Nat.le_trans⟩
  exact List.isChain_iff_pairwise.mp caseRuns_checked.1

theorem avoids_of_mem {r : CaseRun} (hr : r ∈ caseRuns) :
    ∀ q ∈ dottedRun :: caseRuns, r.avoids q = true := by
  have hboth := List.all_eq_true.mp caseRuns_checked.2.1 r hr
  rw [Bool.and_eq_true, List.all_eq_true] at hboth
  exact List.forall_mem_cons.mpr
    ⟨hboth.1, fun q => CaseRun.avoids_of_reaching pairwise_caseRuns hboth.2⟩

section Characters

variable {c d : Char}

theorem isLow_of_uncovered (h : ∀ q ∈ dottedRun :: caseRuns, q.target? c.toNat = none) :
    IsLow c := by
  obtain ⟨hdotted, hruns⟩ := List.forall_mem_cons.mp h
  have hne : c.toNat ≠ 0x130 := by
    intro hc
    rw [hc] at hdotted
    cases hdotted
  have hsigma : c.toNat ≠ 0x3A3 := by
    intro hc
    have hrun : (⟨0x3A3, 0x3AB, 1, 32⟩ : CaseRun).target? c.toNat = none := hruns _ (by decide)
    rw [hc] at hrun
    cases hrun
  refine ⟨?_, hsigma⟩
  rw [lowerChar, if_neg hne]
  by_cases hascii : c.toNat < 0x80
  · rw [if_pos hascii]
    obtain hsame | ⟨hlow, hhigh, -⟩ := Percent.toLower_cases c
    · rw [hsame]
    · have hrun : (⟨0x41, 0x5A, 1, 32⟩ : CaseRun).target? c.toNat = none := hruns _ (by decide)
      rw [CaseRun.target?, if_pos ⟨hlow, hhigh, Nat.mod_one _⟩] at hrun
      cases hrun
  · have hnone : caseRuns.findSome? (·.target? c.toNat) = none :=
      List.findSome?_eq_none_iff.mpr hruns
    rw [if_neg hascii, hnone]
    rfl

/-- What a run moves, it moves to where nothing is moved any more. -/
theorem isLow_of_target? {r : CaseRun} (hr : r ∈ caseRuns) {n m : ℕ} (h : r.target? n = some m) :
    IsLow (Char.ofNat m) := by
  by_cases hvalid : m.isValidChar
  · apply isLow_of_uncovered
    intro q hq
    rw [Utf8.toNat_ofNat_of_valid hvalid]
    exact CaseRun.target?_eq_none_of_avoids (avoids_of_mem hr q hq) h
  · rw [Char.ofNat, dif_neg hvalid]
    exact ⟨rfl, by decide⟩

theorem isLow_of_ruled (h : c.toNat ∈ ruled) : IsLow c := by
  have hnone := List.all_eq_true.mp caseRuns_checked.2.2 c.toNat h
  rw [List.all_eq_true] at hnone
  exact isLow_of_uncovered fun q hq => Option.isNone_iff_eq_none.mp (hnone q hq)

theorem isLow_toLower (hascii : c.toNat < 0x80) : IsLow c.toLower := by
  have hstill : c.toLower.toNat < 0x80 ∧ c.toLower.toLower = c.toLower := by
    obtain hc | ⟨hlow, hhigh, hc⟩ := Percent.toLower_cases c
    · exact ⟨by rwa [hc], by rw [hc, hc]⟩
    · refine ⟨by omega, ?_⟩
      obtain hagain | ⟨-, hupper, -⟩ := Percent.toLower_cases c.toLower
      · exact hagain
      · omega
  refine ⟨?_, by omega⟩
  rw [lowerChar, if_neg (by omega), if_pos hstill.1, hstill.2]

theorem isLow_of_mem_lowerChar (hsigma : c.toNat ≠ 0x3A3) (h : d ∈ lowerChar c) : IsLow d := by
  rw [lowerChar] at h
  by_cases hdotted : c.toNat = 0x130
  · rw [if_pos hdotted] at h
    simp only [List.mem_cons, List.not_mem_nil, or_false] at h
    cases h with
    | inl hi => exact hi ▸ isLow_of_ruled (by decide)
    | inr hdot => exact hdot ▸ isLow_of_ruled (by decide)
  · rw [if_neg hdotted] at h
    by_cases hascii : c.toNat < 0x80
    · rw [if_pos hascii, List.mem_singleton] at h
      rw [h]
      exact isLow_toLower hascii
    · rw [if_neg hascii, List.mem_singleton] at h
      cases hfound : caseRuns.findSome? (·.target? c.toNat) with
      | none =>
        rw [hfound] at h
        obtain rfl : d = c := h
        refine ⟨?_, hsigma⟩
        rw [lowerChar, if_neg hdotted, if_neg hascii, hfound]
        rfl
      | some m =>
        rw [hfound] at h
        obtain ⟨r, hr, htarget⟩ := List.exists_of_findSome?_eq_some hfound
        rw [h]
        exact isLow_of_target? hr htarget

end Characters

theorem isLow_of_mem_lowerFrom {before s : List Char} {d : Char} (h : d ∈ lowerFrom before s) :
    IsLow d := by
  induction s generalizing before with
  | nil => cases h
  | cons c s ih =>
    rw [lowerFrom, List.mem_append] at h
    cases h with
    | inr hrest => exact ih hrest
    | inl hform =>
      by_cases hsigma : c.toNat = 0x3A3
      · rw [if_pos hsigma, List.mem_singleton] at hform
        rw [hform]
        by_cases hfinal : (nextIsCased before && !nextIsCased s) = true
        · rw [if_pos hfinal]
          exact isLow_of_ruled (by decide)
        · rw [if_neg hfinal]
          exact isLow_of_ruled (by decide)
      · rw [if_neg hsigma] at hform
        exact isLow_of_mem_lowerChar hsigma hform

theorem lowerFrom_of_isLow {s : List Char} (h : ∀ c ∈ s, IsLow c) (before : List Char) :
    lowerFrom before s = s := by
  induction s generalizing before with
  | nil => rfl
  | cons c s ih =>
    obtain ⟨⟨hc, hsigma⟩, hs⟩ := List.forall_mem_cons.mp h
    simp only [lowerFrom]
    rw [if_neg hsigma, hc, ih hs, List.singleton_append]

/-- Lower case of lower case is lower case. -/
theorem lower_lower (s : String) : lower (lower s) = lower s := by
  have hlow : ∀ c ∈ (lower s).toList, IsLow c := by
    intro c hc
    rw [lower, String.toList_ofList] at hc
    exact isLow_of_mem_lowerFrom hc
  rw [lower, lowerFrom_of_isLow hlow, String.ofList_toList]

end Testbed.Text
