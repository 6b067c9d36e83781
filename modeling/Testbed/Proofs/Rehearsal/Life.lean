import Testbed.Proofs.Rehearsal.Tracking

/-!
# The life of a run

What a run has become by some time follows from its beginning and from its first abort alone. It
does not matter in how many steps the clock has come there, nor what else was done to the rehearsal
in the meantime.
-/

namespace Testbed.Rehearsal

variable {_ : Json.Wording}

section Moves

def andThen (moved : Run × List Record) (next : Run → Run × List Record) : Run × List Record :=
  ((next moved.1).1, moved.2 ++ (next moved.1).2)

variable {r : Run} {t t' : ℕ}

theorem andThen_assoc (moved : Run × List Record) (next next' : Run → Run × List Record) :
    andThen (andThen moved next) next' = andThen moved fun r => andThen (next r) next' := by
  simp [andThen]

theorem andThen_congr {moved : Run × List Record} {next next' : Run → Run × List Record}
    (h : next moved.1 = next' moved.1) : andThen moved next = andThen moved next' := by
  rw [andThen, andThen, h]

theorem unfold_succ_of_due {x : Session.Signal} (hn : r.next? = some (t, x)) (hle : t ≤ t')
    (fuel : ℕ) :
    r.unfold (some t') (fuel + 1) = andThen (r.deliver t x) (·.unfold (some t') fuel) := by
  simp [Run.unfold, hn, hle.not_gt, andThen]

theorem unfold_of_not_due (hn : ∀ t x, r.next? = some (t, x) → t' < t) (fuel : ℕ) :
    r.unfold (some t') fuel = (r, []) :=
  unfold_of_settled (fun _ => hn) fuel

/-- More fuel changes nothing once all that is due has happened. -/
theorem unfold_of_le {m n : ℕ} (hle : m ≤ n) (hs : (r.unfold (some t) m).1.Settled t) :
    r.unfold (some t) n = r.unfold (some t) m := by
  induction m generalizing r n with
  | zero => exact unfold_of_settled hs n
  | succ m ih =>
    obtain ⟨n, rfl⟩ : ∃ n', n = n' + 1 := ⟨n - 1, by omega⟩
    by_cases hdue : ∃ s x, r.next? = some (s, x) ∧ s ≤ t
    · obtain ⟨s, x, hn, hst⟩ := hdue
      rw [unfold_succ_of_due hn hst] at hs ⊢
      rw [unfold_succ_of_due hn hst, andThen, andThen, ih (by omega) hs]
    · have hnot (s : ℕ) (x : Session.Signal) (hn : r.next? = some (s, x)) : t < s :=
        Nat.lt_of_not_le fun hst => hdue ⟨s, x, hn, hst⟩
      rw [unfold_of_not_due hnot, unfold_of_not_due hnot]

/-- A stop on the way takes some fuel of its own. -/
theorem exists_unfold_andThen (hle : t ≤ t') (m n : ℕ) (r : Run) :
    ∃ k, r.unfold (some t') (k + n) = andThen (r.unfold (some t) m) (·.unfold (some t') n) := by
  induction m generalizing r with
  | zero => exact ⟨0, by simp [Run.unfold, andThen]⟩
  | succ m ih =>
    by_cases hdue : ∃ s x, r.next? = some (s, x) ∧ s ≤ t
    · obtain ⟨s, x, hn, hst⟩ := hdue
      obtain ⟨k, hk⟩ := ih (r.deliver s x).1
      refine ⟨k + 1, ?_⟩
      rw [Nat.add_right_comm, unfold_succ_of_due hn (hst.trans hle), unfold_succ_of_due hn hst,
        andThen_assoc, andThen, hk]
      rfl
    · have hnot (s : ℕ) (x : Session.Signal) (hn : r.next? = some (s, x)) : t < s :=
        Nat.lt_of_not_le fun hst => hdue ⟨s, x, hn, hst⟩
      exact ⟨0, by simp [unfold_of_not_due hnot, andThen]⟩

variable {g : Setting} {aborted : Option ℕ} {es : List Record}

theorem Timeline.unfold_andThen (h : Timeline g aborted es r) (hle : t ≤ t') {m n p : ℕ}
    (hm : r.stock ≤ m) (hn : (r.unfold (some t) m).1.stock ≤ n) (hp : r.stock ≤ p) :
    andThen (r.unfold (some t) m) (·.unfold (some t') n) = r.unfold (some t') p := by
  obtain ⟨hstop, -, -⟩ := h.unfold t m hm
  obtain ⟨-, hstopped, -⟩ := hstop.unfold t' n hn
  obtain ⟨-, hsettled, -⟩ := h.unfold t' p hp
  obtain ⟨k, hk⟩ := exists_unfold_andThen hle m n r
  rw [← hk]
  have hstopped' : (r.unfold (some t') (k + n)).1.Settled t' := by rwa [hk]
  rcases Nat.le_total (k + n) p with hfuel | hfuel
  · exact (unfold_of_le hfuel hstopped').symm
  · exact unfold_of_le hfuel hsettled

/-- A stop on the way to a time changes nothing. -/
theorem Timeline.advanceTo_advanceTo (h : Timeline g aborted es r) (hle : t ≤ t') :
    andThen (r.advanceTo t) (·.advanceTo t') = r.advanceTo t' := by
  have hstop := h.unfold_andThen hle (stock_le_potential r)
    (stock_le_potential (r.unfold (some t) r.potential).1) (stock_le_potential r)
  rw [andThen] at hstop ⊢
  exact hstop

end Moves

/-- What a run has become by a time, if it is first aborted at another one or not at all. -/
def lived [Json.Wording] (begun : Run × List Record) (aborted : Option ℕ) (now : ℕ) :
    Run × List Record :=
  match aborted with
  | none => andThen begun (·.advanceTo now)
  | some t => andThen (andThen begun (·.advanceTo t)) (·.deliver t .abort)

def Led [Json.Wording] (begun : Run × List Record) (aborted : Option ℕ) (es : List Record) (i : ℕ)
    (h : Rehearsal) : Prop :=
  ∃ r, h.runs[i]? = some r ∧ (r, es) = lived begun aborted h.clock

section Lives

variable {g : Setting} {begun : Run × List Record} {aborted : Option ℕ} {es : List Record} {i : ℕ}
  {h : Rehearsal}

theorem OnTime.isEnded_of_aborted {t now : ℕ} {r : Run} (h : OnTime g (some t) now es r) :
    r.session.isEnded = true := by
  cases h.timeline.stage with
  | streaming _ abort => cases abort
  | closing _ abort => cases abort
  | ended phase => simp [Session.isEnded, phase]

/-- Whatever is done to a rehearsal, its runs lead their own lives. -/
theorem Led.perform (hb : Timeline g none begun.2 begun.1) (ht : Tracked g aborted es i h)
    (hl : Led begun aborted es i h) (op : Op) :
    Led begun (aborted.or (if op = .abort i then some h.clock else none))
      (es ++ recordsOf i (h.perform op).2) i (h.perform op).1 := by
  obtain ⟨r, hi, htime⟩ := ht
  obtain ⟨r', hi', hlived⟩ := hl
  obtain rfl : r = r' := Option.some.inj (hi.symm.trans hi')
  by_cases hop : op = .abort i
  · subst hop
    obtain ⟨hclock, hrun, hrecords⟩ := abort_run hi
    rw [if_pos rfl]
    refine ⟨_, hrun, ?_⟩
    simp only [Rehearsal.perform, hrecords, hclock]
    cases aborted with
    | none => exact congrArg (andThen · (·.deliver h.clock .abort)) hlived
    | some t =>
      rw [Run.deliver_of_isEnded htime.isEnded_of_aborted, List.append_nil]
      exact hlived
  · obtain ⟨hle, hrun, hrecords⟩ := perform_run hi htime.settled hop
    rw [if_neg hop, Option.or_none, hrecords]
    refine ⟨_, hrun, ?_⟩
    cases aborted with
    | none =>
      -- the run has stopped at the clock as it was, which makes no difference to where it gets
      let next (r : Run) := andThen (r.advanceTo h.clock) (·.advanceTo (h.perform op).1.clock)
      have hstop : next begun.1 = begun.1.advanceTo (h.perform op).1.clock :=
        hb.advanceTo_advanceTo hle
      rw [lived, ← andThen_congr hstop, ← andThen_assoc]
      exact congrArg (andThen · (·.advanceTo (h.perform op).1.clock)) hlived
    | some t =>
      have he := htime.isEnded_of_aborted
      rw [Run.advanceTo, unfold_of_isEnded _ _ he, List.append_nil]
      exact hlived

theorem Led.play (hb : Timeline g none begun.2 begun.1) (ht : Tracked g aborted es i h)
    (hl : Led begun aborted es i h) (ops : List Op) :
    Led begun (aborted.or (abortTime? i h ops)) (es ++ recordsOf i (h.play ops).2) i
      (h.play ops).1 := by
  induction ops generalizing h aborted es with
  | nil => simpa [Rehearsal.play, abortTime?, recordsOf] using hl
  | cons op ops ih =>
    have hops := ih (ht.perform op) (hl.perform hb ht op)
    rw [Option.or_assoc] at hops
    simp only [Rehearsal.play, abortTime?, recordsOf_append]
    by_cases hop : op = .abort i
    · simpa [hop] using hops
    · simpa [hop] using hops

end Lives

end Testbed.Rehearsal
