import Mathlib.Data.List.Basic
import Testbed.Proofs.Rehearsal.History
import Testbed.Proofs.Rehearsal.Timeline
import Testbed.Proofs.Session.Verdict
import Testbed.Proofs.Text.Utf8
import Testbed.Socket

/-!
# The spelling of messages

A session asks for frames, and what a peer sends reaches it only as such. Pings and pongs are passed
over while it waits, and a binary message is the text that its bytes are, so that peers which differ
in nothing else make the same connection. Bytes that are no text decide the run on the spot.
-/

namespace Testbed

open Log (Entry)

namespace Rehearsal.Run

open Session (Signal)

variable {_ : Json.Wording} {r : Run} {x : Signal}

theorem next?_of_answer_zero (h : r.answer = some (0, x)) : r.next? = some (0, x) := by
  unfold next?
  cases ha : r.alarm? <;> simp [h]

theorem unfold_of_answer_zero (h : r.answer = some (0, x)) (fuel : ℕ) :
    (r.unfold none (fuel + 1)).1 = ((r.deliver 0 x).1.unfold none fuel).1 := by
  simp [unfold, next?_of_answer_zero h]

end Rehearsal.Run

namespace Socket

open Rehearsal (Act Connection Cue Delivery Run)
open Session (CloseEnd DecidingFrame Limits Outcome PassingFrames Progress Report Stimulus closeNote
  connectEntry sentEntry Turn)

/-- The cues of what arrives at certain times. The session has waited since `asked`, and all that
came up to `now` is taken. -/
def cuesFrom (asked now : ℕ) : List (ℕ × Arrival) → List Cue
  | [] => []
  | (t, x) :: r =>
    match x.delivery? with
    | none => cuesFrom asked (max now t) r
    | some d => ⟨max now t - asked, d⟩ :: cuesFrom (max now t) (max now t) r

def hearing (k : Connection) (arrivals : List (ℕ × Arrival)) : Connection :=
  { k with cues := cuesFrom 0 0 arrivals }

/-- Says the same with pings and pongs in between, and with some of the texts as bytes. -/
inductive Respelled : List (ℕ × Arrival) → List (ℕ × Arrival) → Prop where
  | nil : Respelled [] []
  | keep {as bs} (x : ℕ × Arrival) (h : Respelled as bs) : Respelled (x :: as) (x :: bs)
  | ping {as bs} (t : ℕ) (payload : String) (h : Respelled as bs) :
    Respelled as ((t, .message (.ping payload)) :: bs)
  | pong {as bs} (t : ℕ) (payload : String) (h : Respelled as bs) :
    Respelled as ((t, .message (.pong payload)) :: bs)
  | bytes {as bs} (t : ℕ) (s : String) (h : Respelled as bs) :
    Respelled ((t, .message (.text s)) :: as)
      ((t, .message (.binary (Text.Utf8.encode s.toList))) :: bs)

def Arrival.passes [Json.Wording] : Arrival → Bool
  | .message m => m.frame?.all (·.decision? = none)
  | .reset => false

def Arrival.frame? : Arrival → Option Frame
  | .message m => m.frame?
  | .reset => none

section Frames

theorem binaryFrame_encode (s : String) : binaryFrame (Text.Utf8.encode s.toList) = .text s := by
  rw [binaryFrame, Text.Utf8.decode_encode]
  simp

theorem exists_binaryFrame_eq_malformed {bytes : List UInt8}
    (h : ∀ s, bytes ≠ Text.Utf8.encode s) : ∃ why, binaryFrame bytes = .malformed why := by
  rw [binaryFrame]
  cases hd : Text.Utf8.decode bytes with
  | ok s => exact absurd (Text.Utf8.decode_eq_ok_iff.mp hd) (h s)
  | error e => exact ⟨_, rfl⟩

end Frames

section Respelling

variable {_ : Json.Wording} {as bs : List (ℕ × Arrival)}

theorem delivery?_bytes (s : String) :
    (Arrival.message (.binary (Text.Utf8.encode s.toList))).delivery? =
      (Arrival.message (.text s)).delivery? := by
  simp [Arrival.delivery?, Message.frame?, binaryFrame_encode]

/-- What is passed over takes no time from what comes later. -/
theorem cuesFrom_max {t : ℕ} (h : ∀ x ∈ bs, t ≤ x.1) (asked now : ℕ) :
    cuesFrom asked (max now t) bs = cuesFrom asked now bs := by
  cases bs with
  | nil => rfl
  | cons x bs =>
    have ht : max (max now t) x.1 = max now x.1 := by
      rw [max_assoc, max_eq_right (h x List.mem_cons_self)]
    simp only [cuesFrom, ht]

theorem Respelled.cuesFrom_eq (h : Respelled as bs) (inOrder : bs.Pairwise (·.1 ≤ ·.1))
    (asked now : ℕ) : cuesFrom asked now bs = cuesFrom asked now as := by
  induction h generalizing asked now with
  | nil => rfl
  | keep x h ih =>
    have hrest := ih inOrder.of_cons
    simp only [cuesFrom, hrest]
  | ping t payload h ih | pong t payload h ih =>
    obtain ⟨hlater, hrest⟩ := List.pairwise_cons.mp inOrder
    rw [← ih hrest, ← cuesFrom_max hlater]
    rfl
  | bytes t s h ih =>
    have hrest := ih inOrder.of_cons
    simp only [cuesFrom, delivery?_bytes, hrest]

theorem Respelled.deliveries_eq (h : Respelled as bs) :
    (bs.map Prod.snd).filterMap Arrival.delivery? =
      (as.map Prod.snd).filterMap Arrival.delivery? := by
  induction h with
  | nil => rfl
  | keep x h ih => simp only [List.map_cons, List.filterMap_cons, ih]
  | ping t payload h ih | pong t payload h ih => exact ih
  | bytes t s h ih => simp only [List.map_cons, List.filterMap_cons, delivery?_bytes, ih]

theorem Respelled.breaks_eq (h : Respelled as bs) :
    breaks (bs.map Prod.snd) = breaks (as.map Prod.snd) := by
  induction h with
  | nil => rfl
  | keep x h ih =>
    obtain ⟨t, x⟩ := x
    cases x with
    | reset => rfl
    | message m => cases m <;> first | exact ih | rfl
  | ping t payload h ih | pong t payload h ih | bytes t s h ih => exact ih

theorem Respelled.run_eq (h : Respelled as bs) (s : Session) :
    (Peer.sends (bs.map Prod.snd)).run s = (Peer.sends (as.map Prod.snd)).run s := by
  have hconnection : (Peer.sends (bs.map Prod.snd)).connection s.token =
      (Peer.sends (as.map Prod.snd)).connection s.token := by
    simp only [Peer.connection, closeResult, h.breaks_eq, h.deliveries_eq]
    rfl
  rw [Peer.run, hconnection, ← Peer.run]

end Respelling

section Runs

variable {_ : Json.Wording}

def closing (arrivals : List Arrival) : CloseEnd :=
  if breaks arrivals then .failed (.closeFailed resetText) else .acknowledged

theorem signal?_closeResult (arrivals : List Arrival) (now : ℕ) :
    (Act.mk 0 (some (closeResult arrivals))).signal? now .closed .closeFailed =
      some (now, (closing arrivals).signal) := by
  cases h : breaks arrivals <;> simp [Act.signal?, closeResult, closing, h, CloseEnd.signal]

/-- A run that is closing ends with what its close is answered with. -/
theorem report_of_answered_close {r : Run} {o : Outcome} {c : Bool} (e : CloseEnd)
    (hs : r.session.Coherent) (hp : r.session.phase = .closing o c)
    (hanswer : r.answer = some (0, e.signal)) (fuel : ℕ) :
    (r.unfold none (fuel + 1)).1.session.report? =
      some ⟨e.state o c, o, r.session.logs ++ e.entries r.session.limits c⟩ := by
  have hturn := Turn.settled e hp rfl
  have hended : (r.deliver 0 e.signal).1.session.isEnded = true := by
    rw [Run.session_deliver, hturn.move_eq hs]
    rfl
  rw [Run.unfold_of_answer_zero hanswer, Rehearsal.unfold_of_isEnded _ _ hended,
    Run.session_deliver, hturn.move_eq hs]
  rfl

/-- A session that reads frames which pass and then one that decides ends with its outcome. -/
theorem report_of_reading {arrivals : List Arrival} (fs : PassingFrames) (f : DecidingFrame)
    (rest : List Cue) {r : Run} (hs : r.session.Coherent) (hp : r.session.phase = .receiving)
    (hclose : r.script.close = ⟨0, some (closeResult arrivals)⟩)
    (hcues : r.script.cues = fs.1.map (⟨0, .frame ·⟩) ++ ⟨0, .frame f.frame⟩ :: rest)
    (fuel : ℕ) :
    let e := closing arrivals
    ((r.place 0 .receive).unfold none (fuel + 2 + fs.1.length)).1.session.report? =
      some ⟨e.state f.outcome f.peerClosed, f.outcome, r.session.logs ++ fs.logs ++
        f.frame.entries ++ e.entries r.session.limits f.peerClosed⟩ := by
  intro e
  obtain ⟨fs, hfs⟩ := fs
  simp only [PassingFrames.logs] at hcues ⊢
  induction fs generalizing r with
  | nil =>
    let r' : Run :=
      { r with answer := some (0, .received f.frame), script := { r.script with cues := rest } }
    have hreading : r.place 0 .receive = r' := by simp [Run.place, hcues, Delivery.signal, r']
    obtain ⟨hphase, hanswer, -⟩ := Run.deliver_deciding (r := r') (t := 0) hs hp f.decides
    have hsession := (Turn.decided hp f.decides).move_eq hs
    rw [hreading, List.length_nil, Nat.add_zero, Run.unfold_of_answer_zero rfl,
      report_of_answered_close e _ hphase]
    · simp [Run.session_deliver, r', hsession]
    · rw [hanswer, hclose, signal?_closeResult]
    · exact Run.session_deliver r' 0 _ ▸ Session.coherent_move hs _
  | cons g fs ih =>
    obtain ⟨hg, hpass⟩ := List.forall_mem_cons.mp hfs
    let r' : Run :=
      { r with
        answer := some (0, .received g)
        script :=
          { r.script with cues := fs.map (⟨0, .frame ·⟩) ++ ⟨0, .frame f.frame⟩ :: rest } }
    have hreading : r.place 0 .receive = r' := by simp [Run.place, hcues, Delivery.signal, r']
    have hturn := Turn.wentOn (s := r'.session) hp hg
    have hrest := ih (r := { r' with session := _ }) (hturn.coherent hs) hp hclose hpass rfl
    rw [hreading, List.length_cons, ← Nat.add_assoc, Run.unfold_of_answer_zero rfl,
      Run.deliver_of_turn (r := r') hs hturn, Run.follow_of_call _ _ (c := .receive) (by simp),
      hrest]
    simp [r']

theorem Peer.report_run (p : Peer) (s : Session) :
    (p.run s).2 =
      (Run.opened 0 s.limits.run (p.connection s.token) s).1.complete.1.session.report? := by
  unfold run
  generalize Run.opened 0 s.limits.run (p.connection s.token) s = opened
  rfl

/-- A run on a connection that comes about at once and brings a frame which decides. -/
theorem report_of_connection (a : Address) (token : String) (l : Limits) {arrivals : List Arrival}
    (fs : PassingFrames) (f : DecidingFrame) (rest : List Cue) {k : Connection}
    (hconnect : k.connect = ⟨0, some (.ok ())⟩) (hsend : k.send = ⟨0, some (.ok ())⟩)
    (hclose : k.close = ⟨0, some (closeResult arrivals)⟩)
    (hcues : k.cues = fs.1.map (⟨0, .frame ·⟩) ++ ⟨0, .frame f.frame⟩ :: rest) :
    let e := closing arrivals
    (Run.opened 0 l.run k (.create a token l)).1.complete.1.session.report? =
      some ⟨e.state f.outcome f.peerClosed, f.outcome,
        [connectEntry a, sentEntry] ++ fs.logs ++ f.frame.entries ++ e.entries l f.peerClosed⟩ := by
  intro e
  let begun : Run := ⟨Progress.begun.session a token l, k, l.run, none, some (0, .connected)⟩
  let sending : Run := ⟨Progress.connected.session a token l, k, l.run, none, some (0, .sent)⟩
  let reading : Run :=
    ⟨(Progress.sent ⟨[], by simp⟩).session a token l, k, l.run, none, some (0, .sent)⟩
  have hopened : (Run.opened 0 l.run k (.create a token l)).1 = begun := by
    change Run.place 0 ⟨Progress.begun.session a token l, k, l.run, none, none⟩
      (.connect a token) = begun
    simp [Run.place, hconnect, Act.signal?, begun]
  have hbegun : (begun.deliver 0 .connected).1 = sending := by
    rw [Run.deliver_of_turn (r := begun) rfl (.connected rfl),
      Run.follow_of_call _ _ (c := .send _) rfl]
    simp [Run.place, hsend, Act.signal?, begun, sending, Progress.session, Progress.phase,
      Progress.state, Progress.logs]
  have hsending : (sending.deliver 0 .sent).1 = reading.place 0 .receive := by
    rw [Run.deliver_of_turn (r := sending) rfl (.sent rfl),
      Run.follow_of_call _ _ (c := .receive) rfl]
    simp [sending, reading, Progress.session, Progress.phase,
      Progress.state, Progress.logs, PassingFrames.logs]
  have hfuel : begun.potential = rest.length + 3 + 2 + fs.1.length + 1 + 1 := by
    simp only [Run.potential, begun, hcues, List.length_append, List.length_map, List.length_cons]
    omega
  rw [hopened, Run.complete, hfuel, Run.unfold_of_answer_zero rfl, hbegun,
    Run.unfold_of_answer_zero rfl, hsending,
    report_of_reading fs f rest (Session.coherent_progress a token _) rfl hclose hcues]
  simp [e, reading, Progress.session, Progress.logs, PassingFrames.logs]

end Runs

section Undecodable

variable {_ : Json.Wording} {before : List Arrival}

theorem decision?_of_passes (hpass : before.all Arrival.passes = true) :
    ∀ f ∈ before.filterMap Arrival.frame?, f.decision? = none := by
  intro f hf
  obtain ⟨x, hx, hframe⟩ := List.mem_filterMap.mp hf
  have hpasses := List.all_eq_true.mp hpass x hx
  cases x with
  | reset => cases hframe
  | message m =>
    rw [Arrival.frame?] at hframe
    simpa [Arrival.passes, hframe] using hpasses

theorem deliveries_of_passes (hpass : before.all Arrival.passes = true) :
    before.filterMap Arrival.delivery? =
      (before.filterMap Arrival.frame?).map Delivery.frame := by
  rw [List.map_filterMap]
  refine List.filterMap_congr fun x hx => ?_
  have hpasses := List.all_eq_true.mp hpass x hx
  cases x with
  | reset => cases hpasses
  | message m => rfl

theorem breaks_append (hpass : before.all Arrival.passes = true) (r : List Arrival) :
    breaks (before ++ r) = breaks r := by
  induction before with
  | nil => rfl
  | cons x before ih =>
    obtain ⟨hx, hrest⟩ := Bool.and_eq_true_iff.mp hpass
    rw [List.cons_append, ← ih hrest]
    cases x with
    | reset => cases hx
    | message m =>
      cases m with
      | close code reason => cases hx
      | _ => rfl

/-- Bytes that are no text decide a run that is reading, with one entry, which is an error. -/
theorem undecodable_decides {bytes : List UInt8} {why : String}
    (hbytes : binaryFrame bytes = .malformed why) (a : Address) (token : String) (l : Limits)
    {xs : List Stimulus} (hp : ((Session.create a token l).play xs).session.phase = .receiving) :
    let s := Session.create a token l
    let ys := xs ++ [.signal (.received (binaryFrame bytes))]
    let logs := (s.play xs).session.logs ++ [.problem (.malformedMessage why)]
    (s.play ys).session.phase = .closing .protocolError false ∧
      (s.play ys).session.logs = logs ∧
      (∀ e : CloseEnd, (s.play (ys ++ [.signal e.signal])).session.report? =
        some ⟨e.state .protocolError false, .protocolError, logs ++ closeNote l false e⟩) ∧
      ∀ zs r, (s.play (ys ++ zs)).session.report? = some r → ∃ e : CloseEnd,
        r = ⟨e.state .protocolError false, .protocolError, logs ++ closeNote l false e⟩ := by
  intro s ys logs
  have hs := Session.coherent_play (Session.coherent_create a token l) xs
  have hmove := (Turn.decided (f := .malformed why) hp rfl).move_eq hs
  have hplay : (s.play ys).session = ((s.play xs).session.move
      (.signal (.received (.malformed why)))).session := by
    rw [Session.play_append, Session.play_singleton, hbytes]
  have hphase : (s.play ys).session.phase = .closing .protocolError false := by
    rw [hplay, hmove]
  have hlogs : (s.play ys).session.logs = logs := by
    rw [hplay, hmove]
    rfl
  refine ⟨hphase, hlogs, fun e => ?_, fun zs r h => ?_⟩
  · have hclosing := Session.coherent_play (Session.coherent_create a token l) ys
    rw [Session.play_append, Session.play_singleton,
      (Turn.settled e hphase rfl).move_eq hclosing, ← CloseEnd.entries_eq_closeNote,
      Session.report?, hlogs, Session.limits_play (Session.coherent_create a token l)]
    rfl
  · obtain ⟨-, e, -, hr⟩ := Session.report_of_run_closing a token hphase h
    exact ⟨e, by rw [hr, hlogs]⟩

/-- How a run ends with a peer that sends bytes which are no text after what lets it go on. -/
theorem report_of_undecodable {bytes : List UInt8} {why : String}
    (hbytes : binaryFrame bytes = .malformed why) (after : List Arrival) (a : Address)
    {token : String} (l : Limits) (hdial : (Peer.sends []).dial token = .ok ())
    (hpass : before.all Arrival.passes = true) :
    let e := closing after
    ((Peer.sends (before ++ .message (.binary bytes) :: after)).run (.create a token l)).2 =
      some ⟨e.state .protocolError false, .protocolError,
        [connectEntry a, sentEntry] ++ (before.filterMap Arrival.frame?).flatMap Frame.entries ++
          [.problem (.malformedMessage why)] ++ closeNote l false e⟩ := by
  intro e
  let arrivals := before ++ .message (.binary bytes) :: after
  let k := (Peer.sends arrivals).connection token
  have hclosing : closing arrivals = e := by
    simp only [arrivals, closing, breaks_append hpass, e]
    rfl
  have hcues : k.cues = (before.filterMap Arrival.frame?).map (⟨0, .frame ·⟩) ++
      ⟨0, .frame (.malformed why)⟩ :: (after.filterMap Arrival.delivery?).map (⟨0, ·⟩) := by
    simp [k, arrivals, Peer.connection, deliveries_of_passes hpass, Arrival.delivery?,
      Message.frame?, hbytes]
  have hconnect : k.connect = ⟨0, some (.ok ())⟩ := by
    simpa [k, Peer.connection, Peer.dial] using hdial
  rw [Peer.report_run, ← CloseEnd.entries_eq_closeNote, ← hclosing]
  exact report_of_connection a token l ⟨_, decision?_of_passes hpass⟩
    ⟨.malformed why, .protocolError, false, rfl⟩ _ hconnect rfl rfl hcues

end Undecodable

/-- How messages are spelled does not matter. A peer that says the same with pings and pongs in
between, or with bytes for texts, gives the same run, at whatever times its messages come and
whatever else happens meanwhile. Bytes that are no text end the run wherever it reads them, and all
that they leave in the log is one error. -/
theorem spelling_of_messages [Json.Wording] :
    (∀ as bs, Respelled as bs →
      (∀ s, (Peer.sends (bs.map Prod.snd)).run s = (Peer.sends (as.map Prod.snd)).run s) ∧
      (bs.Pairwise (·.1 ≤ ·.1) → ∀ k runner ks ks' ops,
        (Rehearsal.create runner (ks ++ hearing k bs :: ks')).play ops =
          (Rehearsal.create runner (ks ++ hearing k as :: ks')).play ops)) ∧
    ∀ bytes, (∀ s, bytes ≠ Text.Utf8.encode s) →
      ∃ why, binaryFrame bytes = .malformed why ∧
        let entry := Entry.problem (.malformedMessage why)
        entry.isError = true ∧ (∀ t : String, entry ≠ .debug s!"Raw message received: {t}") ∧
        (∀ a token l xs, let s := Session.create a token l
          (s.play xs).session.phase = .receiving →
            let ys := xs ++ [.signal (.received (binaryFrame bytes))]
            let logs := (s.play xs).session.logs ++ [entry]
            (s.play ys).session.phase = .closing .protocolError false ∧
            (s.play ys).session.logs = logs ∧
            (∀ e : CloseEnd, (s.play (ys ++ [.signal e.signal])).session.report? =
              some ⟨e.state .protocolError false, .protocolError, logs ++ closeNote l false e⟩) ∧
            ∀ zs r, (s.play (ys ++ zs)).session.report? = some r → ∃ e : CloseEnd,
              r = ⟨e.state .protocolError false, .protocolError, logs ++ closeNote l false e⟩) ∧
        ∀ before after a token l, before.all Arrival.passes = true →
          (Peer.sends []).dial token = .ok () →
          let e := closing after
          ((Peer.sends (before ++ .message (.binary bytes) :: after)).run
              (.create a token l)).2 =
            some ⟨e.state .protocolError false, .protocolError,
              [connectEntry a, sentEntry] ++
                (before.filterMap Arrival.frame?).flatMap Frame.entries ++ [entry] ++
                closeNote l false e⟩ := by
  refine ⟨fun as bs h => ⟨h.run_eq, fun inOrder k runner ks ks' ops => ?_⟩, fun bytes h => ?_⟩
  · rw [hearing, h.cuesFrom_eq inOrder, ← hearing]
  · obtain ⟨why, hbytes⟩ := exists_binaryFrame_eq_malformed h
    refine ⟨why, hbytes, rfl, fun t => by simp [Entry.problem, Entry.debug, Entry.ofNow], ?_, ?_⟩
    · intro a token l xs s hp
      exact undecodable_decides hbytes a token l hp
    · intro before after a token l hpass hdial
      exact report_of_undecodable hbytes after a l hdial hpass

/-- A session that is kept alive, of which one message comes as bytes. -/
theorem spelling_of_messages_keptAlive :
    let passing := "\x7b\x7d"
    let last := "\x7b\"status\": \"Completed\"\x7d"
    let plain : List (ℕ × Arrival) := [(0, .message (.text passing)), (5, .message (.text last))]
    let spelled : List (ℕ × Arrival) :=
      [(0, .message (.ping "")), (0, .message (.binary (Text.Utf8.encode passing.toList))),
        (3, .message (.pong "late")), (5, .message (.text last))]
    let s := Session.create Session.localAddress "secret" {}
    Respelled plain spelled ∧
      (Peer.sends (spelled.map Prod.snd)).run s = (Peer.sends (plain.map Prod.snd)).run s ∧
      (∀ runner ops, (Rehearsal.create runner [hearing {} spelled]).play ops =
        (Rehearsal.create runner [hearing {} plain]).play ops) ∧
      (∀ s, [0xFF, 0xFE] ≠ Text.Utf8.encode s) ∧
      ∃ r, ((Peer.sends [.message (.text passing), .message (.binary [0xFF, 0xFE])]).run s).2 =
        some r ∧ r.outcome = .protocolError := by
  intro passing last plain spelled s
  have hspelled : Respelled plain spelled :=
    .ping 0 "" (.bytes 0 passing (.pong 3 "late" (.keep _ .nil)))
  have hbytes (s : List Char) : [0xFF, 0xFE] ≠ Text.Utf8.encode s := by
    intro h
    have hread := Text.Utf8.decode_eq_ok_iff.mpr h
    have hflaw : Text.Utf8.decode [0xFF, 0xFE] = .error (0, .invalid 1) := by decide
    rw [hflaw] at hread
    cases hread
  obtain ⟨hsame, hundecodable⟩ := spelling_of_messages
  obtain ⟨why, -, -, -, -, hruns⟩ := hundecodable _ hbytes
  have hrun := hruns [.message (.text passing)] [] Session.localAddress "secret" {}
    (by decide) (by decide)
  obtain ⟨hpeers, hrehearsals⟩ := hsame _ _ hspelled
  exact ⟨hspelled, hpeers s, fun runner ops => hrehearsals (by decide) {} runner [] [] ops,
    hbytes, _, hrun, rfl⟩

end Socket

end Testbed
