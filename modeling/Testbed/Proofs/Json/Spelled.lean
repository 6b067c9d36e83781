import Testbed.Proofs.Json.TokenText

/-!
# Trees that are read are spelled

Reading goes by the grammar and by nothing else: if a text is read as a tree without a fault, and
nothing is left of it, the text spells the tree. While a text is read, the frames hold the tokens
that have led to them.
-/

namespace Testbed.Json

section Frames

def separatedItems (items : List Json) : List Token := items.flatMap fun j => j.written ++ [.comma]

def separatedMembers (members : List (Option String × Json)) : List Token :=
  members.flatMap fun m => .string m.1 :: .colon :: (m.2.written ++ [.comma])

theorem writtenItems_concat (items : List Json) (j : Json) :
    writtenItems (items ++ [j]) = separatedItems items ++ j.written := by
  induction items with
  | nil => rfl
  | cons i items ih =>
    have hcons : writtenItems (i :: (items ++ [j])) =
        i.written ++ .comma :: writtenItems (items ++ [j]) := by
      cases items <;> rfl
    rw [List.cons_append, hcons, ih]
    simp [separatedItems]

theorem writtenMembers_concat (members : List (Option String × Json)) (key : Option String)
    (j : Json) : writtenMembers (members ++ [(key, j)]) =
      separatedMembers members ++ .string key :: .colon :: j.written := by
  induction members with
  | nil => rfl
  | cons m members ih =>
    have hcons : writtenMembers (m :: (members ++ [(key, j)])) = .string m.1 :: .colon ::
        (m.2.written ++ .comma :: writtenMembers (members ++ [(key, j)])) := by
      cases members <;> rfl
    rw [List.cons_append, hcons, ih]
    simp [separatedMembers]

/-- The tokens that have led to these frames, when a value or a key is awaited in the first. -/
def ahead : List Frame → List Token
  | [] => []
  | .array items :: s => ahead s ++ .openArray :: separatedItems items.reverse
  | .object members :: s => ahead s ++ .openObject :: separatedMembers members.reverse
  | .member members key :: s =>
    ahead s ++ .openObject :: (separatedMembers members.reverse ++ [.string key, .colon])

inductive HoldValues : List Frame → Prop where
  | nil : HoldValues []
  | array {s : List Frame} (items : List Json) (hs : HoldValues s) :
    HoldValues (.array items :: s)
  | member {s : List Frame} (members : List (Option String × Json)) (key : Option String)
    (hs : HoldValues s) : HoldValues (.member members key :: s)

/-- The tokens lead to these frames, in which this is awaited. -/
inductive LeadTo : List Frame → Awaited → List Token → Prop where
  | value {s : List Frame} (hs : HoldValues s) : LeadTo s .value (ahead s)
  | openArray {s : List Frame} (hs : HoldValues s) :
    LeadTo (.array [] :: s) .itemOrClose (ahead s ++ [.openArray])
  | openObject {s : List Frame} (hs : HoldValues s) :
    LeadTo (.object [] :: s) .keyOrClose (ahead s ++ [.openObject])
  | comma {s : List Frame} (hs : HoldValues s) (members : List (Option String × Json)) :
    LeadTo (.object members :: s) .key (ahead (.object members :: s))
  | key {s : List Frame} (hs : HoldValues s) (members : List (Option String × Json))
    (key : Option String) :
    LeadTo (.member members key :: s) .colon (ahead (.object members :: s) ++ [.string key])
  | item {s : List Frame} (hs : HoldValues s) (items : List Json) (j : Json) :
    LeadTo (.array (j :: items) :: s) .commaOrClose
      (ahead s ++ .openArray :: writtenItems (items.reverse ++ [j]))
  | member {s : List Frame} (hs : HoldValues s) (members : List (Option String × Json))
    (key : Option String) (j : Json) :
    LeadTo (.object ((key, j) :: members) :: s) .commaOrClose
      (ahead s ++ .openObject :: writtenMembers (members.reverse ++ [(key, j)]))

/-- The tokens lead to what is read so far, or they are those of the tree. A tree that has a fault
or something behind it does not count. -/
def Progress.IsLed : Progress → List Token → Prop
  | .reading s a, ks => LeadTo s a ks
  | .done j clean, ks => j.intact = true → clean = true → ks = j.written

variable {s : List Frame} {a : Awaited} {k : Token} {ks : List Token} {p : Progress}

theorem isLed_place (hs : HoldValues s) (j : Json) : (place s j).IsLed (ahead s ++ j.written) := by
  cases hs with
  | nil => exact fun _ _ => rfl
  | array items hs =>
    have h := LeadTo.item hs items j
    rwa [writtenItems_concat, ← List.cons_append, ← List.append_assoc] at h
  | member members key hs =>
    have h := LeadTo.member hs members key j
    rw [writtenMembers_concat] at h
    simpa [ahead, place, Progress.IsLed] using h

theorem isLed_startValue (hs : HoldValues s) (h : startValue s k = some p) :
    p.IsLed (ahead s ++ [k]) := by
  cases k with
  | null => cases h; exact isLed_place hs .null
  | bool b => cases h; exact isLed_place hs (.bool b)
  | number n => cases h; exact isLed_place hs (.number n)
  | string text => cases h; exact isLed_place hs (.string text)
  | openArray => cases h; exact .openArray hs
  | openObject => cases h; exact .openObject hs
  | _ => cases h

theorem isLed_advance (h : LeadTo s a ks) (hp : advance? s a k = some p) :
    p.IsLed (ks ++ [k]) := by
  cases h with
  | value hs => exact isLed_startValue hs hp
  | @openArray s hs =>
    by_cases hk : k = .closeArray
    · subst hk
      cases hp
      simpa [written, writtenItems] using isLed_place hs (.array [] true)
    · have hstart : startValue (.array [] :: s) k = some p := by
        simpa [advance?, hk] using hp
      simpa [ahead, separatedItems] using isLed_startValue (.array [] hs) hstart
  | @openObject s hs =>
    cases k with
    | closeObject =>
      cases hp
      simpa [written, writtenMembers] using isLed_place hs (.object [] true)
    | string key =>
      cases hp
      simpa [ahead, separatedMembers, Progress.IsLed] using LeadTo.key hs [] key
    | _ => cases hp
  | comma hs members =>
    cases k with
    | string key =>
      cases hp
      exact .key hs members key
    | _ => cases hp
  | @key s hs members key =>
    cases k with
    | colon =>
      cases hp
      simpa [ahead, Progress.IsLed] using LeadTo.value (.member members key hs)
    | _ => cases hp
  | @item s hs items j =>
    cases k with
    | comma =>
      cases hp
      have h := LeadTo.value (.array (j :: items) hs)
      simpa [ahead, Progress.IsLed, writtenItems_concat, separatedItems] using h
    | closeArray =>
      cases hp
      simpa [written] using isLed_place hs (.array (items.reverse ++ [j]) true)
    | _ => cases hp
  | @member s hs members key j =>
    cases k with
    | comma =>
      cases hp
      have h := LeadTo.comma hs ((key, j) :: members)
      simpa [ahead, Progress.IsLed, writtenMembers_concat, separatedMembers] using h
    | closeObject =>
      cases hp
      simpa [written] using isLed_place hs (.object (members.reverse ++ [(key, j)]) true)
    | _ => cases hp

theorem intact_abandon (s : List Frame) {j : Json} (hj : j.intact = false) :
    (abandon s j).intact = false := by
  induction s generalizing j with
  | nil => exact hj
  | cons f s ih =>
    cases f with
    | array items => exact ih (by rw [intact, Bool.and_false])
    | object members => exact ih (by rw [intact, Bool.and_false])
    | member members key => exact ih (by rw [intact, Bool.and_false])

/-- A text that breaks off leaves a tree with a fault. -/
theorem intact_breakOff (s : List Frame) (a : Awaited) : (breakOff s a).intact = false := by
  unfold breakOff
  split <;> exact intact_abandon _ (by simp [intact])

theorem Progress.IsLed.step (h : p.IsLed ks) (k : Token) : (p.step k).IsLed (ks ++ [k]) := by
  cases p with
  | done j clean => exact fun _ hclean => absurd hclean Bool.false_ne_true
  | reading s a =>
    unfold Progress.step
    cases hp : advance? s a k with
    | some p =>
      simp only [hp]
      exact isLed_advance h hp
    | none =>
      simp only [hp]
      intro hintact
      rw [intact_breakOff] at hintact
      cases hintact

theorem Progress.IsLed.run (h : p.IsLed ks) (ls : List Token) : (p.run ls).IsLed (ks ++ ls) := by
  induction ls generalizing p ks with
  | nil => rwa [List.append_nil]
  | cons k ls ih =>
    rw [run_cons, List.append_cons]
    exact ih (h.step k)

/-- A tree without a fault, with nothing behind it, is read from its own tokens. -/
theorem tokens_of_ofText {j : Json} {text : String} (h : ofText text = (j, true))
    (hj : j.intact = true) : tokens text.toList = j.written := by
  have hled : (Progress.reading [] .value).IsLed [] := LeadTo.value .nil
  have hrun := hled.run (tokens text.toList)
  rw [List.nil_append] at hrun
  rw [ofText] at h
  cases hp : (Progress.reading [] .value).run (tokens text.toList) with
  | reading s a =>
    rw [hp] at h
    obtain ⟨rfl, -⟩ := Prod.mk.inj h
    rw [intact_breakOff] at hj
    cases hj
  | done tree clean =>
    rw [hp] at h hrun
    obtain ⟨rfl, rfl⟩ := Prod.mk.inj h
    exact hrun hj rfl

end Frames

section Trees

variable {ks ls : List Token} {t g : List Char}

theorem AreTokens.append_gap (h : AreTokens ks t) (hg : IsGap g) : AreTokens ks (t ++ g) := by
  induction h with
  | gap hg' => exact .gap (List.forall_mem_append.mpr ⟨hg', hg⟩)
  | cons hg' h _ ih =>
    rw [List.append_assoc, List.append_assoc]
    exact .cons hg' h ih

theorem AreTokens.split (h : AreTokens (ks ++ ls) t) :
    ∃ u v, t = u ++ v ∧ AreTokens ks u ∧ AreTokens ls v := by
  induction ks generalizing t with
  | nil => exact ⟨[], t, rfl, .gap isGap_nil, h⟩
  | cons k ks ih =>
    obtain _ | ⟨hg, hk, hr⟩ := h
    obtain ⟨u, v, rfl, hu, hv⟩ := ih hr
    exact ⟨_, v, by simp only [List.append_assoc], .cons hg hk hu, hv⟩

theorem AreTokens.singleton {k : Token} (h : AreTokens [k] t) :
    ∃ g u g', IsGap g ∧ IsTokenText k u ∧ IsGap g' ∧ t = g ++ (u ++ g') := by
  obtain _ | ⟨hg, hk, hr⟩ := h
  obtain hg' | _ := hr
  exact ⟨_, _, _, hg, hk, hg', rfl⟩

mutual

/-- Text that is made of the tokens of a tree spells the tree. -/
theorem isText_of_areTokens : ∀ {j : Json}, j.intact = true → ∀ {t : List Char},
    AreTokens j.written t → IsText j t
  | .null, _, _, h => by
    obtain ⟨g, u, g', hg, hu, hg', rfl⟩ := h.singleton
    cases hu
    exact .spaced hg .null hg'
  | .bool b, _, _, h => by
    obtain ⟨g, u, g', hg, hu, hg', rfl⟩ := h.singleton
    cases hu with
    | true => exact .spaced hg .true hg'
    | false => exact .spaced hg .false hg'
  | .number n, _, _, h => by
    obtain ⟨g, u, g', hg, hu, hg', rfl⟩ := h.singleton
    cases hu with
    | number hn => exact .spaced hg (.number hn) hg'
  | .string text, _, _, h => by
    obtain ⟨g, u, g', hg, hu, hg', rfl⟩ := h.singleton
    cases hu with
    | string hs => exact .spaced hg (.string hs) hg'
  | .array items closed, hj, _, h => by
    obtain ⟨hitems, rfl⟩ : intactItems items = true ∧ closed = true := by simpa [intact] using hj
    obtain _ | ⟨hg, hopen, hr⟩ := h
    cases hopen
    obtain ⟨u, v, rfl, hu, hv⟩ := hr.split
    obtain ⟨g, c, g', hclose, hc, hend, rfl⟩ := hv.singleton
    cases hc
    by_cases hempty : items = []
    · subst hempty
      obtain hgap | _ := hu
      have harray := IsText.emptyArray (List.forall_mem_append.mpr ⟨hgap, hclose⟩)
      simpa using IsText.spaced hg harray hend
    · have harray := IsText.array (areItems_of_areTokens hitems hempty (hu.append_gap hclose))
      simpa using IsText.spaced hg harray hend
  | .object members closed, hj, _, h => by
    obtain ⟨hmembers, rfl⟩ : intactMembers members = true ∧ closed = true := by
      simpa [intact] using hj
    obtain _ | ⟨hg, hopen, hr⟩ := h
    cases hopen
    obtain ⟨u, v, rfl, hu, hv⟩ := hr.split
    obtain ⟨g, c, g', hclose, hc, hend, rfl⟩ := hv.singleton
    cases hc
    by_cases hempty : members = []
    · subst hempty
      obtain hgap | _ := hu
      have hobject := IsText.emptyObject (List.forall_mem_append.mpr ⟨hgap, hclose⟩)
      simpa using IsText.spaced hg hobject hend
    · have hobject :=
        IsText.object (areMembers_of_areTokens hmembers hempty (hu.append_gap hclose))
      simpa using IsText.spaced hg hobject hend
  | .broken, hj, _, _ => by cases hj

theorem areItems_of_areTokens : ∀ {items : List Json}, intactItems items = true → items ≠ [] →
    ∀ {t : List Char}, AreTokens (writtenItems items) t → AreItems items t
  | [], _, hempty, _, _ => absurd rfl hempty
  | [j], hj, _, _, h => .last (isText_of_areTokens (by simpa [intactItems] using hj) h)
  | j :: i :: r, hj, _, _, h => by
    obtain ⟨hfirst, hrest⟩ : j.intact = true ∧ intactItems (i :: r) = true := by
      simpa only [intactItems, Bool.and_eq_true] using hj
    obtain ⟨u, v, rfl, hu, hv⟩ := AreTokens.split h
    obtain _ | ⟨hg, hcomma, hr⟩ := hv
    cases hcomma
    have hall := AreItems.cons (isText_of_areTokens hfirst (hu.append_gap hg))
      (areItems_of_areTokens hrest (List.cons_ne_nil i r) hr)
    simpa using hall

theorem areMembers_of_areTokens : ∀ {members : List (Option String × Json)},
    intactMembers members = true → members ≠ [] →
      ∀ {t : List Char}, AreTokens (writtenMembers members) t → AreMembers members t
  | [], _, hempty, _, _ => absurd rfl hempty
  | [(key, j)], hj, _, _, h => by
    obtain _ | ⟨hg, hkey, hr⟩ := h
    obtain _ | ⟨hg', hcolon, hvalue⟩ := hr
    cases hcolon
    cases hkey with
    | string hkey =>
      exact .last hg hkey hg' (isText_of_areTokens (by simpa [intactMembers] using hj) hvalue)
  | (key, j) :: m :: r, hj, _, _, h => by
    obtain ⟨hfirst, hrest⟩ : j.intact = true ∧ intactMembers (m :: r) = true := by
      simpa only [intactMembers, Bool.and_eq_true] using hj
    obtain _ | ⟨hg, hkey, hr⟩ := h
    obtain _ | ⟨hg', hcolon, hr⟩ := hr
    cases hcolon
    obtain ⟨u, v, rfl, hu, hv⟩ := AreTokens.split hr
    obtain _ | ⟨hend, hcomma, hmore⟩ := hv
    cases hcomma
    cases hkey with
    | string hkey =>
      have hall := AreMembers.cons hg hkey hg' (isText_of_areTokens hfirst (hu.append_gap hend))
        (areMembers_of_areTokens hrest (List.cons_ne_nil m r) hmore)
      simpa using hall

end

mutual

theorem wrong_notMem_written : ∀ j : Json, .wrong ∉ j.written
  | .null | .bool _ | .number _ | .string _ | .broken => by simp [written]
  | .array items _ => by simp [written, wrong_notMem_writtenItems items]
  | .object members _ => by simp [written, wrong_notMem_writtenMembers members]

theorem wrong_notMem_writtenItems : ∀ items : List Json, .wrong ∉ writtenItems items
  | [] => by simp [writtenItems]
  | [j] => wrong_notMem_written j
  | j :: i :: r => by
    simp [writtenItems, wrong_notMem_written j, wrong_notMem_writtenItems (i :: r)]

theorem wrong_notMem_writtenMembers : ∀ members : List (Option String × Json),
    .wrong ∉ writtenMembers members
  | [] => by simp [writtenMembers]
  | [(_, j)] => by simp [writtenMembers, wrong_notMem_written j]
  | (_, j) :: m :: r => by
    simp [writtenMembers, wrong_notMem_written j, wrong_notMem_writtenMembers (m :: r)]

end

/-- A text spells a tree exactly if it is read as that tree, without a fault and to the end. -/
theorem isText_iff {j : Json} {text : String} :
    IsText j text.toList ↔ ofText text = (j, true) ∧ j.intact = true := by
  refine ⟨fun h => ⟨ofText_eq h, h.intact⟩, fun ⟨h, hj⟩ => ?_⟩
  have htokens := tokens_of_ofText h hj
  refine isText_of_areTokens hj (htokens ▸ areTokens_tokens ?_)
  rw [htokens]
  exact wrong_notMem_written j

end Trees

end Testbed.Json
