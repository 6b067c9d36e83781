import Mathlib.Data.List.Forall2
import Testbed.Message
import Testbed.Proofs.Log.Spelling

/-!
# The spellings of a message

A message may be an object or an array, each of its log entries likewise, and every part that has
its default may be left out or written as `null`. All these are the same message. An object that
gives a field twice is none, and adds one error to the log.
-/

namespace Testbed

open Json

namespace Message

open Log

def names : List String := ["testcaseid", "script_type", "status", "logs"]

inductive IsLogs : Option Json → List Entry → Prop where
  | absent : IsLogs none []
  | null : IsLogs (some .null) []
  | entries {items : List Json} {es : List Entry}
    (h : List.Forall₂ (fun j (e : Entry) => e.IsSpelled j) items es) :
    IsLogs (some (.array items true)) es

inductive IsSpelled (m : Message) : Json → Prop where
  | record {item : String → Option Json} {j : Json} (h : IsRecord names item j)
    (htestCase : IsOptional (item "testcaseid") m.testCase)
    (hscriptType : IsOptional (item "script_type") m.scriptType)
    (hstatus : IsOptional (item "status") m.status) (hlogs : IsLogs (item "logs") m.logs) :
    IsSpelled m j

/-- The tree gives a field of the message twice, or a field of one of its entries. -/
inductive Repeats : Json → Prop where
  | members {name : String} (hname : name ∈ names) {x y : Json}
    {members : List (Option String × Json)} {closed : Bool}
    (h : [(some name, x), (some name, y)].Sublist members) : Repeats (.object members closed)
  | entry {members : List (Option String × Json)} {closed closed' : Bool} {items : List Json}
    (h : (some "logs", .array items closed') ∈ members) {j : Json} (hj : j ∈ items)
    (hr : Entry.Repeats j) : Repeats (.object members closed)
  | position {fields : List Json} {closed closed' : Bool} {items : List Json}
    (h : fields[3]? = some (.array items closed')) {j : Json} (hj : j ∈ items)
    (hr : Entry.Repeats j) : Repeats (.array fields closed)

theorem readEntries_eq {items : List Json} {es : List Entry}
    (h : List.Forall₂ (fun j (e : Entry) => e.IsSpelled j) items es)
    (hitems : ∀ j ∈ items, j.intact = true) : readEntries true items = .ok es := by
  induction h with
  | nil => rfl
  | cons h _ ih =>
    obtain ⟨hj, hrest⟩ := List.forall_mem_cons.mp hitems
    rw [readEntries, Entry.ofJson_of_isSpelled h hj, ih hrest]
    rfl

theorem reads_readLogs {x : Option Json} {es : List Entry} (h : IsLogs x es)
    (hx : ∀ j ∈ x, j.intact = true) : Reads readLogs [] x es := by
  cases h with
  | absent => rfl
  | null => rfl
  | @entries items es h =>
    have hitems : intactItems items = true := by simpa [Json.intact] using hx _ rfl
    exact readEntries_eq h (intact_of_mem_items hitems)

structure Fields.Awaits (f g : Fields) (ms : List (String × Json)) : Prop where
  testCase : Pending optionalString f.testCase (given ["testcaseid"] ms) g.testCase
  scriptType : Pending optionalString f.scriptType (given ["script_type"] ms) g.scriptType
  status : Pending optionalString f.status (given ["status"] ms) g.status
  logs : Pending readLogs f.logs (given ["logs"] ms) g.logs
  intact : ∀ m ∈ ms, m.2.intact = true

theorem Fields.Awaits.step {f g : Fields} {key : String} {j : Json} {ms : List (String × Json)}
    (h : f.Awaits g ((key, j) :: ms)) : ∃ f', readField f key j = .ok f' ∧ f'.Awaits g ms := by
  obtain ⟨htestCase, hscriptType, hstatus, hlogs, hintact⟩ := h
  obtain ⟨hj, hms⟩ := List.forall_mem_cons.mp hintact
  by_cases h₁ : key = "testcaseid"
  · subst h₁
    obtain ⟨hnone, v, hv, hrest⟩ := htestCase.fill (by decide)
    exact ⟨{ f with testCase := some v }, by simp [readField, hnone, hv], hrest,
      hscriptType.skip (by decide), hstatus.skip (by decide), hlogs.skip (by decide), hms⟩
  by_cases h₂ : key = "script_type"
  · subst h₂
    obtain ⟨hnone, v, hv, hrest⟩ := hscriptType.fill (by decide)
    exact ⟨{ f with scriptType := some v }, by simp [readField, hnone, hv],
      htestCase.skip (by decide), hrest, hstatus.skip (by decide), hlogs.skip (by decide), hms⟩
  by_cases h₃ : key = "status"
  · subst h₃
    obtain ⟨hnone, v, hv, hrest⟩ := hstatus.fill (by decide)
    exact ⟨{ f with status := some v }, by simp [readField, hnone, hv],
      htestCase.skip (by decide), hscriptType.skip (by decide), hrest, hlogs.skip (by decide), hms⟩
  by_cases h₄ : key = "logs"
  · subst h₄
    obtain ⟨hnone, v, hv, hrest⟩ := hlogs.fill (by decide)
    exact ⟨{ f with logs := some v }, by simp [readField, hnone, hv],
      htestCase.skip (by decide), hscriptType.skip (by decide), hstatus.skip (by decide), hrest,
      hms⟩
  · exact ⟨f, by simp [readField, h₁, h₂, h₃, h₄, ignored, hj], htestCase.skip (by simpa),
      hscriptType.skip (by simpa), hstatus.skip (by simpa), hlogs.skip (by simpa), hms⟩

theorem Fields.Awaits.eq {f g : Fields} (h : f.Awaits g []) : f = g := by
  obtain ⟨htestCase, hscriptType, hstatus, hlogs, -⟩ := h
  cases f
  cases g
  cases htestCase
  cases hscriptType
  cases hstatus
  cases hlogs
  rfl

section Reading

variable {item : String → Option Json} {m : Message}

theorem readItem_eq {x : Option Json} {o : Option String} (h : Reads optionalString none x o) :
    readItem x = .ok o := by
  cases x <;> exact h

theorem ofJson_members (htestCase : Reads optionalString none (item "testcaseid") m.testCase)
    (hscriptType : Reads optionalString none (item "script_type") m.scriptType)
    (hstatus : Reads optionalString none (item "status") m.status)
    (hlogs : Reads readLogs [] (item "logs") m.logs) {ms : List (String × Json)}
    (hgiven : ∀ name ∈ names, given [name] ms = (item name).toList)
    (hms : ∀ m ∈ ms, m.2.intact = true) : ofJson (.object (named ms) true) = .ok (some m) := by
  let g : Fields := ⟨(item "testcaseid").map fun _ => m.testCase,
    (item "script_type").map fun _ => m.scriptType, (item "status").map fun _ => m.status,
    (item "logs").map fun _ => m.logs⟩
  have hstart : Fields.Awaits {} g ms := by
    refine ⟨?_, ?_, ?_, ?_, hms⟩
    · rw [hgiven _ (by decide)]
      exact htestCase.pending
    · rw [hgiven _ (by decide)]
      exact hscriptType.pending
    · rw [hgiven _ (by decide)]
      exact hstatus.pending
    · rw [hgiven _ (by decide)]
      exact hlogs.pending
  have hfold : foldMembers readField true {} (named ms) = .ok g :=
    foldMembers_eq_ok (Φ := fun f ms => f.Awaits g ms) Fields.Awaits.step Fields.Awaits.eq hstart
  have hmessage : g.message = m := by
    simp only [g, Fields.message, htestCase.getD_eq, hscriptType.getD_eq, hstatus.getD_eq,
      hlogs.getD_eq]
  rw [ofJson, hfold, ← hmessage]
  rfl

theorem ofJson_positions {items : List Json} (hlength : items.length ≤ 4)
    (htestCase : Reads optionalString none items[0]? m.testCase)
    (hscriptType : Reads optionalString none items[1]? m.scriptType)
    (hstatus : Reads optionalString none items[2]? m.status)
    (hlogs : Reads readLogs [] items[3]? m.logs) :
    ofJson (.array items true) = .ok (some m) := by
  have hfirst := nextItem_drop items 0
  rw [List.drop_zero] at hfirst
  rw [ofJson, hfirst]
  change (readItem items[0]? >>= _) = _
  rw [readItem_eq htestCase]
  change (nextItem true (items.drop 1) >>= _) = _
  rw [nextItem_drop]
  change (readItem items[1]? >>= _) = _
  rw [readItem_eq hscriptType]
  change (nextItem true (items.drop 2) >>= _) = _
  rw [nextItem_drop]
  change (readItem items[2]? >>= _) = _
  rw [readItem_eq hstatus]
  change (nextItem true (items.drop 3) >>= _) = _
  rw [nextItem_drop]
  refine (match_bind _ _).trans ?_
  rw [hlogs]
  change (noMoreItems true (items.drop 4) >>= _) = _
  rw [noMoreItems_drop hlength]
  rfl

/-- Every tree for a message is read as that message. -/
theorem ofJson_of_isSpelled {j : Json} (h : m.IsSpelled j) (hj : j.intact = true) :
    ofJson j = .ok (some m) := by
  cases h with
  | @record item j hrecord htestCase hscriptType hstatus hlogs =>
    have htestCase := reads_optionalString htestCase
    have hscriptType := reads_optionalString hscriptType
    have hstatus := reads_optionalString hstatus
    cases hrecord with
    | members ms hgiven =>
      have hms : ∀ m ∈ ms, m.2.intact = true :=
        intact_of_mem_named (by simpa [Json.intact] using hj)
      have hlog : ∀ j ∈ item "logs", j.intact = true := by
        intro j hj
        have hmem : j ∈ given ["logs"] ms := by
          rw [hgiven _ (by decide)]
          exact Option.mem_toList.mpr hj
        obtain ⟨m, hm, rfl⟩ := exists_mem_of_mem_given hmem
        exact hms m hm
      exact ofJson_members htestCase hscriptType hstatus (reads_readLogs hlogs hlog) hgiven hms
    | @positions items hlength hitem =>
      have hitems : ∀ j ∈ items, j.intact = true :=
        intact_of_mem_items (by simpa [Json.intact] using hj)
      rw [hitem 0 _ rfl] at htestCase
      rw [hitem 1 _ rfl] at hscriptType
      rw [hitem 2 _ rfl] at hstatus
      rw [hitem 3 _ rfl] at hlogs
      exact ofJson_positions hlength htestCase hscriptType hstatus
        (reads_readLogs hlogs fun j hj => hitems j (List.mem_of_getElem? hj))

end Reading

section Repeating

def Fields.has (f : Fields) (name : String) : Bool :=
  name = "testcaseid" && f.testCase.isSome || name = "script_type" && f.scriptType.isSome ||
    name = "status" && f.status.isSome || name = "logs" && f.logs.isSome

theorem gives_has (f : Fields) (key : String) (j : Json) : Gives (readField f key j) fun g =>
    ∀ name ∈ names, g.has name = (f.has name || decide (name = key)) := by
  unfold readField
  split_ifs with htestCase _ hscriptType _ hstatus _ hlogs
  · exact gives_error _
  · subst htestCase
    exact gives_after fun v => gives_pure (by simp [names, Fields.has])
  · exact gives_error _
  · subst hscriptType
    exact gives_after fun v => gives_pure (by simp [names, Fields.has])
  · exact gives_error _
  · subst hstatus
    exact gives_after fun v => gives_pure (by simp [names, Fields.has])
  · exact gives_error _
  · subst hlogs
    exact gives_after fun v => gives_pure (by simp [names, Fields.has])
  · refine gives_after fun _ => gives_pure fun name hname => ?_
    have hne : name ≠ key := by
      rintro rfl
      simp_all [names]
    simp [hne]

theorem refused_of_has {f : Fields} {name : String} (hname : name ∈ names)
    (h : f.has name = true) (j : Json) : Gives (readField f name j) fun _ => False := by
  have hread : readField f name j = .error (.duplicate name) := by
    simp only [names, List.mem_cons, List.not_mem_nil, or_false] at hname
    obtain rfl | rfl | rfl | rfl := hname <;> simp [Fields.has] at h <;> simp [readField, h]
  rw [hread]
  exact gives_error _

theorem readsOnce {name : String} (hname : name ∈ names) :
    ReadsOnce readField [name] (·.has name = true) where
  refused hkey h j := List.mem_singleton.mp hkey ▸ refused_of_has hname h j
  marked hkey a j := (gives_has a _ j).mono fun g hg => by
    simp [hg name hname, List.mem_singleton.mp hkey]
  kept h key j := (gives_has _ key j).mono fun g hg => by simp [hg name hname, h]

theorem gives_readLogs_of_repeats {items : List Json} {j : Json} (hj : j ∈ items)
    (hr : Entry.Repeats j) (closed : Bool) :
    Gives (readLogs (.array items closed)) fun _ => False := by
  change Gives (readEntries closed items) _
  induction items with
  | nil => cases hj
  | cons k items ih =>
    obtain rfl | hrest := List.mem_cons.mp hj
    · exact gives_bind (Entry.gives_of_repeats hr) fun _ hno => hno.elim
    · exact gives_after fun e => gives_bind (ih hrest) fun _ hno => hno.elim

theorem gives_of_repeats {j : Json} (h : Repeats j) : Gives (ofJson j) fun _ => False := by
  cases h with
  | members hname hsublist =>
    have hfold := (readsOnce hname).gives_foldMembers (by simp) (by simp) hsublist
    exact gives_bind (hfold _ _) fun _ hno => hno.elim
  | @entry members closed closed' items hlogs j hj hr =>
    have hrefused (f : Fields) :
        Gives (readField f "logs" (.array items closed')) fun _ => False := by
      have hread : readField f "logs" (.array items closed') =
          if f.logs.isSome then .error (.duplicate "logs")
          else do return { f with logs := some (← readLogs (.array items closed')) } := by
        simp [readField]
      rw [hread]
      exact gives_ite (gives_error _)
        (gives_bind (gives_readLogs_of_repeats hj hr closed') fun _ hno => hno.elim)
    have hfold := gives_foldMembers_of_mem (f := readField) (P := fun _ => True) hlogs
      (fun _ _ _ => gives_any _) (fun {f} _ => hrefused f)
    exact gives_bind (hfold _ trivial) fun _ hno => hno.elim
  | @position fields closed closed' items hlogs j hj hr =>
    have hread := gives_readLogs_of_repeats hj hr closed'
    obtain _ | ⟨a, _ | ⟨b, _ | ⟨c, _ | ⟨d, rest⟩⟩⟩⟩ := fields
    · cases hlogs
    · cases hlogs
    · cases hlogs
    · cases hlogs
    obtain rfl : d = .array items closed' := Option.some.inj hlogs
    change Gives (readItem (some a) >>= fun t => readItem (some b) >>= fun k =>
      readItem (some c) >>= fun s => readLogs (.array items closed') >>= fun es =>
        noMoreItems closed rest >>= fun _ => pure (some (Message.mk t k s es))) _
    exact gives_after fun _ => gives_after fun _ => gives_after fun _ =>
      gives_bind hread fun _ hno => hno.elim

end Repeating

end Message

/-- Every spelling of a message is read alike: as an object or as an array, with its members in any
order among others, with or without the parts that have their defaults, and in any spelling of the
JSON text. A text that gives a field twice is read as one error of the program's own. -/
theorem spelling_of_message [Wording] :
    (∀ (m : Message) (j : Json) (s : String), m.IsSpelled j → IsText j s.toList →
      Reading.ofText s = Reading.ofMessage m) ∧
    ∀ (j : Json) (s : String), Message.Repeats j → IsText j s.toList →
      ∃ why, Reading.ofText s = Reading.ofFault why ∧
        ∃ e, (Reading.ofText s).entries = [e] ∧ e.isError = true ∧ e.stamp = .now := by
  refine ⟨fun m j s h hs => ?_, fun j s h hs => ?_⟩
  · have hread : readText Message.ofJson s = .ok (some m) := by
      rw [readText_eq hs, Message.ofJson_of_isSpelled h hs.intact]
    rw [Reading.ofText, hread]
  · have hread : ∃ f, readText Message.ofJson s = .error f := by
      rw [readText_eq hs]
      exact exists_error_of_gives (Message.gives_of_repeats h)
    obtain ⟨f, hf⟩ := hread
    obtain ⟨why, hwhy⟩ : ∃ why, Reading.ofText s = Reading.ofFault why :=
      ⟨_, by rw [Reading.ofText, hf]⟩
    exact ⟨why, hwhy, _, by rw [hwhy]; rfl, rfl, rfl⟩

/-- A message with an unknown member, whose one entry is an array with a part left out, and a text
that gives the entries twice. -/
theorem spelling_of_message_positionalEntry :
    let m : Message := ⟨none, none, none, [⟨.given "", "open", .info⟩]⟩
    let entry : Json := .array [.null, .string (some "open")] true
    let j : Json := .object [(some "x", .bool true), (some "logs", .array [entry] true)] true
    let s := "\x7b\"x\":true,\"logs\": [[null,\"\\u006fpen\"]]\x7d"
    let repeated : Json := .object [(some "logs", .null), (some "logs", .null)] true
    let s' := "\x7b\"logs\":null,\"logs\":null\x7d"
    m.IsSpelled j ∧ IsText j s.toList ∧ Reading.ofText s = Reading.ofMessage m ∧
      Message.Repeats repeated ∧ IsText repeated s'.toList ∧
        ∃ why, Reading.ofText s' = Reading.ofFault why := by
  intro m entry j s repeated s'
  have hgap : IsGap [] := by simp [IsGap]
  have hspace : IsGap [' '] := by simp [IsGap, isSpace]
  have hentry : Log.Entry.IsSpelled ⟨.given "", "open", .info⟩ entry := by
    let item (name : String) : Option Json :=
      if name = "timestamp" then some .null
      else if name = "message" then some (.string (some "open")) else none
    have hrecord : IsRecord Log.Entry.names item entry := by
      refine .positions (by decide) fun i name hname => ?_
      obtain _ | _ | _ | i := i
      · exact Option.some.inj hname ▸ rfl
      · exact Option.some.inj hname ▸ rfl
      · exact Option.some.inj hname ▸ rfl
      · cases hname
    exact .record hrecord ⟨none, .null, rfl⟩ ⟨_, .text "open", rfl⟩ (.default .absent)
  have hspelled : m.IsSpelled j := by
    let item (name : String) : Option Json :=
      if name = "logs" then some (.array [entry] true) else none
    have hrecord : IsRecord Message.names item j :=
      .members [("x", .bool true), ("logs", .array [entry] true)]
        (by simp [Message.names, item, given])
    exact .record hrecord .absent .absent .absent (.entries (.cons hentry .nil))
  have hopen : IsString (some "open") ('"' :: ("\\u006fpen".toList ++ ['"'])) := by
    have hpieces : ArePieces ([.ofNat 0x6F, .char 'p', .char 'e', .char 'n'])
        (['\\', 'u', '0', '0', '6', 'f'] ++ (['p'] ++ (['e'] ++ (['n'] ++ [])))) :=
      .cons (.unit (w := 0) (x := 0) (y := 6) (z := 15) rfl rfl rfl rfl)
        (.cons (.plain (by decide) (by decide) (by decide))
          (.cons (.plain (by decide) (by decide) (by decide))
            (.cons (.plain (by decide) (by decide) (by decide)) .nil)))
    exact .quoted hpieces
  have htext : IsText j s.toList := by
    have h := IsText.object (.cons hgap (isString_quote "x") hgap .true
      (.last hgap (isString_quote "logs") hgap (.spaced hspace (.array (.last (.array
        (.cons .null (.last (.string hopen)))))) hgap)))
    exact Eq.subst (motive := IsText j) (by decide +kernel) h
  have hrepeats : Message.Repeats repeated :=
    .members (show "logs" ∈ Message.names by decide) (.refl _)
  have htwice : IsText repeated s'.toList := by
    have h := IsText.object (.cons hgap (isString_quote "logs") hgap .null
      (.last hgap (isString_quote "logs") hgap .null))
    exact Eq.subst (motive := IsText repeated) (by decide +kernel) h
  obtain ⟨why, hwhy, -⟩ := spelling_of_message.2 _ _ hrepeats htwice
  exact ⟨hspelled, htext, spelling_of_message.1 _ _ _ hspelled htext, hrepeats, htwice, why, hwhy⟩

end Testbed
