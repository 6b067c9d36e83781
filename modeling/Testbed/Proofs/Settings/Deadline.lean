import Testbed.Proofs.Socket.Spelling
import Testbed.Proofs.Toml.Range
import Testbed.Settings
import Testbed.World

/-!
# Deadlines that the clock can show

The time limit of a run is any number of seconds that the settings can spell, which is less than
`2 ^ 63`, and the clock counts to just below the same bound. So a run starts if and only if the
limit fits between the present time and the end of the clock. A run that starts ends with a report;
one that does not is lost before anything of it is seen.
-/

namespace Testbed

open Toml

namespace Settings

section Range

variable {v w : Toml} {name : String} {position : ℕ}

theorem isInRange_of_field? (h : v.IsInRange) (hw : field? name position v = some (some w)) :
    w.IsInRange := by
  cases h with
  | table h =>
    obtain ⟨e, he, rfl⟩ := Option.map_eq_some_iff.mp (Option.some.inj hw)
    exact h e (List.mem_of_find?_eq_some he)
  | array h => exact h w (List.mem_of_getElem? (Option.some.inj hw))
  | dateTime => cases Option.some.inj hw
  | _ => cases hw

/-- A field has its default, or what is read from a value inside. -/
theorem fieldOr_eq_some {α : Type} {read : Toml → Option α} {otherwise a : α} (h : v.IsInRange)
    (ha : fieldOr read otherwise name position v = some a) :
    a = otherwise ∨ ∃ w : Toml, w.IsInRange ∧ read w = some a := by
  obtain ⟨o, ho, ha⟩ := Option.bind_eq_some_iff.mp ha
  cases o with
  | none => exact .inl (Option.some.inj ha).symm
  | some w => exact .inr ⟨w, isInRange_of_field? h ho, ha⟩

theorem lt_of_seconds? {n : ℕ} (h : v.IsInRange) (hn : seconds? v = some n) :
    n < 9223372036854775808 := by
  cases h with
  | @integer i hlow hhigh =>
    change (if 0 ≤ i then some i.toNat else none) = some n at hn
    split_ifs at hn
    have hvalue := Option.some.inj hn
    omega
  | _ => cases hn

theorem runTimeout_lt_of_readRun {run : RunSettings} (h : v.IsInRange)
    (hrun : readRun v = some run) : run.runTimeoutSeconds < 9223372036854775808 := by
  obtain ⟨n, hn, hrun⟩ := Option.bind_eq_some_iff.mp hrun
  obtain ⟨c, -, hrun⟩ := Option.bind_eq_some_iff.mp hrun
  obtain ⟨k, -, hrun⟩ := Option.bind_eq_some_iff.mp hrun
  cases hrun
  obtain rfl | ⟨w, hw, hn⟩ := fieldOr_eq_some h hn
  · exact (by decide : 30 < 9223372036854775808)
  · exact lt_of_seconds? hw hn

/-- The time limit of accepted settings is below the end of the clock. -/
theorem runTimeout_lt {text : String} {settings : Settings} (h : ofText text = .ok settings) :
    settings.run.runTimeoutSeconds < 9223372036854775808 := by
  unfold ofText at h
  split at h
  · next found hfound =>
    cases h
    obtain ⟨es, hes, hsettings⟩ := Option.bind_eq_some_iff.mp hfound
    obtain ⟨api, -, hsettings⟩ := Option.bind_eq_some_iff.mp hsettings
    obtain ⟨run, hrun, hsettings⟩ := Option.bind_eq_some_iff.mp hsettings
    cases hsettings
    obtain rfl | ⟨w, hw, hrun⟩ := fieldOr_eq_some (isInRange_of_ofText hes) hrun
    · exact (by decide : 30 < 9223372036854775808)
    · exact runTimeout_lt_of_readRun hw hrun
  · cases h

end Range

end Settings

namespace Socket

open Rehearsal in
/-- A run with a peer comes to rest, whatever the peer does, and then it has a report. -/
theorem Peer.exists_report_run [Json.Wording] (p : Peer) (address : Address) (token : String)
    (limits : Session.Limits) :
    ∃ report, (p.run (.create address token limits)).2 = some report := by
  obtain ⟨htimeline, -⟩ := timeline_opened 0 (p.connection token) address token limits
  rw [Nat.zero_add] at htimeline
  obtain ⟨o, ho⟩ := htimeline.exists_ended (stock_le_potential _)
  rw [Peer.report_run]
  change ∃ report, (Run.opened 0 limits.run (p.connection token)
    (.create address token limits)).1.complete.1.session.report? = some report
  generalize Run.opened 0 limits.run (p.connection token) _ = opened at ho ⊢
  exact ⟨⟨opened.1.complete.1.session.state, o, opened.1.complete.1.session.logs⟩,
    by rw [Session.report?, Run.complete, ho]⟩

end Socket

namespace World

variable [Json.Wording] (w : World) (address : Address) (token : String)
  {limits : Session.Limits}

/-- A session whose deadline the clock can show runs to its report. -/
theorem observe_of_deadline {t : ℕ} (h : Session.deadline? w.clock limits = some t) :
    ∃ report, w.observe (.create address token limits) =
      ⟨Session.eventsOf (w.network.peer.run (.create address token limits)).1, .ok report⟩ := by
  obtain ⟨report, hreport⟩ := w.network.peer.exists_report_run address token limits
  have hdeadline :
      Session.deadline? w.clock (Session.create address token limits).limits = some t := h
  refine ⟨report, ?_⟩
  rw [World.observe, Observation.ofPeer, hdeadline]
  simp only [hreport]

/-- A session whose deadline the clock cannot show is only released, and there is no report. -/
theorem observe_of_no_deadline (h : Session.deadline? w.clock limits = none) :
    w.observe (.create address token limits) = ⟨[.released], .error Observation.lostSession⟩ := by
  have hdeadline :
      Session.deadline? w.clock (Session.create address token limits).limits = none := h
  rw [World.observe, Observation.ofPeer, hdeadline]
  rfl

end World

namespace Settings

variable {now : ℕ} {settings : Settings}

theorem deadline?_eq_some_iff :
    Session.deadline? now settings.limits = some (now + settings.limits.run) ↔
      now / 1000 + settings.run.runTimeoutSeconds < 9223372036854775808 := by
  have hclock : Session.clockSeconds = 9223372036854775808 := rfl
  have hrun : settings.limits.run = 1000 * settings.run.runTimeoutSeconds := rfl
  rw [Session.deadline?, hclock, hrun]
  split_ifs with h
  · exact iff_of_true rfl (by omega)
  · exact iff_of_false (by simp) (by omega)

theorem deadline?_eq_none (h : 9223372036854775808 ≤ now / 1000 + settings.run.runTimeoutSeconds) :
    Session.deadline? now settings.limits = none := by
  have hclock : Session.clockSeconds = 9223372036854775808 := rfl
  have hrun : settings.limits.run = 1000 * settings.run.runTimeoutSeconds := rfl
  rw [Session.deadline?, if_neg (by omega)]

/-- Whether a run of accepted settings starts depends only on the clock and the time limit, which
may be as large as the clock goes: the deadline is shown, and the run ends with a report, if and
only if the limit fits. Otherwise the session is lost, and nothing but its release is seen. -/
theorem run_starts_iff [Json.Wording] {text : String} (h : ofText text = .ok settings) (w : World)
    (address : Address) (token : String) :
    settings.run.runTimeoutSeconds < 9223372036854775808 ∧
    (Session.deadline? w.clock settings.limits = some (w.clock + settings.limits.run) ↔
      w.clock / 1000 + settings.run.runTimeoutSeconds < 9223372036854775808) ∧
    (w.clock / 1000 + settings.run.runTimeoutSeconds < 9223372036854775808 →
      ∃ report, w.observe (.create address token settings.limits) =
        ⟨Session.eventsOf (w.network.peer.run (.create address token settings.limits)).1,
          .ok report⟩) ∧
    (9223372036854775808 ≤ w.clock / 1000 + settings.run.runTimeoutSeconds →
      ∃ why, w.observe (.create address token settings.limits) =
        ⟨[.released], .error (.internal why)⟩) := by
  refine ⟨runTimeout_lt h, deadline?_eq_some_iff, fun hfits => ?_, fun hover => ?_⟩
  · exact w.observe_of_deadline address token (deadline?_eq_some_iff.mpr hfits)
  · exact ⟨_, w.observe_of_no_deadline address token (deadline?_eq_none hover)⟩

/-- With two minutes to go, a run that starts at the first minute of the clock ends with a report,
though nobody answers. -/
theorem run_starts_iff_usual :
    let text := "[execution]\nrun_timeout_secs = 120\n"
    let settings : Settings := ⟨{}, { runTimeoutSeconds := 120 }⟩
    let w : World := ⟨{ entries := [] }, .unreachable, 60000⟩
    ofText text = .ok settings ∧ Session.deadline? w.clock settings.limits = some 180000 ∧
      ∀ address token, ∃ events report,
        w.observe (.create address token settings.limits) = ⟨events, .ok report⟩ := by
  intro text settings w
  have hread : ofText text = .ok settings := by decide +kernel
  have hfits : w.clock / 1000 + settings.run.runTimeoutSeconds < 9223372036854775808 := by decide
  refine ⟨hread, by decide +kernel, fun address token => ?_⟩
  obtain ⟨-, -, hstarts, -⟩ := run_starts_iff hread w address token
  obtain ⟨report, hreport⟩ := hstarts hfits
  exact ⟨_, report, hreport⟩

/-- The largest number of seconds that the settings can spell is accepted, but no run starts with it
from the first second of the clock on. -/
theorem largest_limit_lost :
    ∃ settings, ofText "[execution]\nrun_timeout_secs = 9223372036854775807\n" = .ok settings ∧
      ∀ w : World, 1000 ≤ w.clock → ∀ address token,
        Session.deadline? w.clock settings.limits = none ∧
        ∃ why, w.observe (.create address token settings.limits) =
          ⟨[.released], .error (.internal why)⟩ := by
  let settings : Settings := ⟨{}, { runTimeoutSeconds := 9223372036854775807 }⟩
  refine ⟨settings, by decide +kernel, fun w hw address token => ?_⟩
  have hnone : Session.deadline? w.clock settings.limits = none := by
    refine deadline?_eq_none ?_
    change _ ≤ w.clock / 1000 + 9223372036854775807
    omega
  exact ⟨hnone, _, w.observe_of_no_deadline address token hnone⟩

end Settings

end Testbed
