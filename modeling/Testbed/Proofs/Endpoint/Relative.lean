import Testbed.Proofs.Address.AddedSlash

/-!
# Targets below a base

A target of plain words is read below the base of a resolver. The slash that a base lacks is put
behind its text, not behind its path: it ends the path if the text does not end with a blank or a
backslash and has no query and no fragment. In the other cases it does not, and the target does not
lead below the path that the text of the base names.
-/

namespace Testbed

open Address (IsPlain SameSite TakesSlash slashed)
open Text (cut)

section Targets

def IsWordChar (c : Char) : Prop := c.isAlphanum = true ∨ c = '-' ∨ c = '_'

instance (c : Char) : Decidable (IsWordChar c) := inferInstanceAs (Decidable (_ ∨ _))

def IsRelative (target : String) : Prop :=
  ∀ w ∈ cut '/' target.toList, w ≠ [] ∧ ∀ c ∈ w, IsWordChar c

instance (target : String) : Decidable (IsRelative target) :=
  have (w : List Char) : Decidable (∀ c ∈ w, IsWordChar c) := List.decidableBAll _ w
  List.decidableBAll (fun w => w ≠ [] ∧ ∀ c ∈ w, IsWordChar c) _

variable {c : Char} {w : List Char}

theorem IsWordChar.unreserved (h : IsWordChar c) : Text.Percent.isUnreserved c = true := by
  rcases h with h | rfl | rfl
  · simp [Text.Percent.isUnreserved, h]
  · decide
  · decide

theorem not_dots_of_word (hw : ∀ c ∈ w, IsWordChar c) :
    Address.isSingleDot w = false ∧ Address.isDoubleDot w = false := by
  have hdot : '.' ∉ w := fun h => absurd (hw _ h) (by decide)
  rw [← Text.Percent.encode_of_kept fun c hc => (hw c hc).unreserved]
  constructor <;> rw [Bool.eq_false_iff]
  · rw [Ne, Address.isSingleDot_encode]
    rintro rfl
    exact hdot List.mem_cons_self
  · rw [Ne, Address.isDoubleDot_encode]
    rintro rfl
    exact hdot List.mem_cons_self

/-- Words are put below the segments before them as they stand. -/
theorem addPieces_words {ws : List (List Char)} (hws : ∀ w ∈ ws, ∀ c ∈ w, IsWordChar c)
    (before : List String) :
    Address.addPieces false before ws = before ++ ws.map String.ofList := by
  induction ws generalizing before with
  | nil => exact (List.append_nil before).symm
  | cons w ws ih =>
    have hw := hws w List.mem_cons_self
    rw [Address.addPieces_data (not_dots_of_word hw).1 (not_dots_of_word hw).2
      fun c hc => .inl (hw c hc).unreserved, ih fun w' hw' => hws w' (List.mem_cons_of_mem _ hw'),
      List.append_assoc]
    rfl

/-- The pieces of a text, each with its slash, are the text again. -/
theorem flatMap_cut (s : List Char) : (cut '/' s).flatMap ('/' :: ·) = '/' :: s := by
  induction s with
  | nil => rfl
  | cons c s ih =>
    rw [cut]
    split_ifs with hc
    · rw [List.flatMap_cons, ih, hc]
      rfl
    · cases hcut : cut '/' s with
      | nil => exact absurd hcut (Text.cut_ne_nil _ _)
      | cons p ps =>
        rw [hcut, List.flatMap_cons, List.cons_append] at ih
        rw [List.flatMap_cons, List.cons_append, List.cons_append, List.tail_eq_of_cons_eq ih]

theorem toList_text_segments (ps : List (List Char)) :
    (Path.segments (ps.map String.ofList)).text.toList = ps.flatMap ('/' :: ·) := by
  induction ps with
  | nil => rfl
  | cons p ps ih =>
    rw [List.map_cons, text_segments_cons, String.toList_append, ih, List.flatMap_cons]
    simp

/-- A relative target is put behind the last slash of a path. -/
theorem exists_join_relative {base : Address} {ss : List String} (hpath : base.path = .segments ss)
    (hspecial : base.isSpecial = true) {target : String} (htarget : IsRelative target) :
    ∃ a, base.join target = .ok a ∧ SameSite a base ∧
      a.path.text = (Path.segments ss.dropLast).text ++ "/" ++ target := by
  have hchars : ∀ c ∈ target.toList, IsWordChar c ∨ c = '/' := by
    intro c hc
    by_cases hslash : c = '/'
    · exact .inr hslash
    · obtain ⟨w, hw, hmem⟩ := Text.exists_mem_cut hc hslash
      exact .inl ((htarget w hw).2 c hmem)
  have hbody : ∀ c ∈ target.toList, Address.IsData c ∨ c = '/' :=
    fun c hc => (hchars c hc).imp_left fun h => .inl h.unreserved
  have hfirst : ∃ c r, target.toList = c :: r ∧ Address.IsData c := by
    cases htext : target.toList with
    | nil =>
      have hempty : [] ∈ cut '/' target.toList := by simp [htext, cut]
      exact absurd rfl (htarget [] hempty).1
    | cons c r =>
      have hslash : c ≠ '/' := by
        rintro rfl
        have hempty : [] ∈ cut '/' target.toList := by simp [htext, cut]
        exact absurd rfl (htarget [] hempty).1
      exact ⟨c, r, rfl, (hbody c (htext ▸ List.mem_cons_self)).resolve_right hslash⟩
  have hcolon : Address.splitScheme (target.toList ++ Address.queryChars none) = none := by
    refine Address.splitScheme_of_not_mem fun h => ?_
    rw [Address.queryChars, List.append_nil] at h
    exact (hchars _ h).elim (fun hc => absurd hc (by decide)) (by decide)
  have hquery : ∀ q ∈ (none : Option (List Char)), ∀ c ∈ q, Address.keepsInQuery true c = true := by
    simp
  have hjoin := Address.join_data hpath hspecial hbody hfirst hquery hcolon
  rw [Address.queryChars, List.append_nil, String.ofList_toList] at hjoin
  refine ⟨_, hjoin, ⟨rfl, rfl, rfl, rfl, rfl⟩, ?_⟩
  rw [addPieces_words fun w hw => (htarget w hw).2, text_segments_append]
  apply String.toList_injective
  simp [toList_text_segments, flatMap_cut]

end Targets

section Bases

variable {table : EndpointTable} {base : String} {r : Resolver}

/-- Whether the slash that is put behind a base ends the path that its text names. A slash at the
end of the path of a base with a query or a fragment is there already. -/
def KeepsPath (base : String) (own : Address) : Prop :=
  (IsPlain base.toList ∧ (base.toList.getLast? = some '/' ∨ TakesSlash base.toList)) ∨
    (¬IsPlain base.toList ∧ own.path.text.toList.getLast? = some '/')

theorem keepsPath_of_plain {own : Address} (hplain : IsPlain base.toList) :
    KeepsPath base own ↔ base.toList.getLast? = some '/' ∨ TakesSlash base.toList := by
  simp [KeepsPath, hplain]

theorem keepsPath_of_not_plain {own : Address} (hplain : ¬IsPlain base.toList) :
    KeepsPath base own ↔ own.path.text.toList.getLast? = some '/' := by
  simp [KeepsPath, hplain]

theorem eq_slashed_iff {s : String} : s = slashed s ↔ s.toList.getLast? = some '/' := by
  rw [slashed]
  split_ifs with hlast
  · exact iff_of_true rfl hlast
  · refine iff_of_false (fun h => ?_) hlast
    have hlength := congrArg String.length h
    rw [String.length_append] at hlength
    exact absurd hlength (by simp)

theorem Resolver.ofText_of_ofBase (h : Resolver.ofBase table base = .ok r) :
    Address.ofText (slashed base) = .ok r.base ∧ isWebScheme r.base.scheme = true ∧
      r.table = table := by
  obtain ⟨a, ha, rfl⟩ := Resolver.exists_of_ofBase h
  simp only [readBase] at ha
  split at ha
  · cases ha
  · next a' hread =>
    split_ifs at ha with hweb
    obtain rfl := Except.ok.inj ha
    exact ⟨hread, hweb, rfl⟩

/-- What a resolver makes of a base is its own address with a slash at the end of the path just if
the base keeps its path. -/
theorem Resolver.exists_own (h : Resolver.ofBase table base = .ok r) :
    ∃ own, Address.ofText base = .ok own ∧ SameSite r.base own ∧
      (r.base.path.text = slashed own.path.text ↔ KeepsPath base own) ∧
      (¬IsPlain base.toList → r.base.path = own.path) := by
  obtain ⟨hread, hweb, -⟩ := Resolver.ofText_of_ofBase h
  rw [slashed] at hread
  by_cases hlast : base.toList.getLast? = some '/'
  · rw [if_pos hlast] at hread
    refine ⟨r.base, hread, ⟨rfl, rfl, rfl, rfl, rfl⟩, ?_, fun _ => rfl⟩
    by_cases hplain : IsPlain base.toList
    · obtain ⟨ss, hss⟩ := (Resolver.isBase_of_ofBase h hplain).path
      rw [keepsPath_of_plain hplain, hss, Address.slashed_text_empty]
      exact iff_of_true rfl (.inl hlast)
    · rw [keepsPath_of_not_plain hplain]
      exact eq_slashed_iff
  · rw [if_neg hlast] at hread
    by_cases hplain : IsPlain base.toList
    · obtain ⟨own, hown, hsame, hpath⟩ := Address.exists_ofText_slash hplain hread hweb
      refine ⟨own, hown, hsame, ?_, fun hno => absurd hplain hno⟩
      rw [keepsPath_of_plain hplain]
      exact hpath.trans (or_iff_right hlast).symm
    · obtain ⟨own, hown, hsame, hpath⟩ :=
        Address.exists_ofText_slash_of_not_plain hplain hread hweb
      refine ⟨own, hown, hsame, ?_, fun _ => hpath⟩
      rw [keepsPath_of_not_plain hplain, hpath]
      exact eq_slashed_iff

/-- The folder of a path is the path with a slash at its end just if the slash is there. -/
theorem folder_eq_slashed_iff {ss : List String} {l : String} (hl : '/' ∉ l.toList) :
    (Path.segments ss).text ++ "/" = slashed (Path.segments (ss ++ [l])).text ↔
      (Path.segments (ss ++ [l])).text.toList.getLast? = some '/' := by
  by_cases hempty : l = ""
  · rw [hempty, Address.text_segments_last, String.append_empty, Address.slashed_of_slash]
    exact iff_of_true rfl (by simp)
  · have hsome : l.toList ≠ [] := fun h => hempty (String.toList_eq_nil_iff.mp h)
    have hlast : (Path.segments (ss ++ [l])).text.toList.getLast? ≠ some '/' := by
      rw [Address.text_segments_last, String.toList_append, List.getLast?_append_of_ne_nil _ hsome]
      exact fun h => hl (List.mem_of_getLast? h)
    refine iff_of_false (fun h => ?_) hlast
    rw [slashed, if_neg hlast] at h
    have hlength := congrArg String.length h
    rw [String.length_append, String.length_append, Address.length_text_last] at hlength
    omega

/-- The path of a base ends with a slash and targets lead below the path that its text names just
if the base keeps its path. -/
theorem Resolver.leads_below_iff (h : Resolver.ofBase table base = .ok r) :
    ∃ own, Address.ofText base = .ok own ∧ SameSite r.base own ∧
      (r.base.path.text.toList.getLast? = some '/' ↔
        IsPlain base.toList ∨ own.path.text.toList.getLast? = some '/') ∧
      (r.base.path.text = slashed own.path.text ↔ KeepsPath base own) ∧
      ∀ target, IsRelative target → table.template? target = none →
        ∃ a, r.httpAddress target [] = .ok a ∧ SameSite a own ∧
          (a.path.text = slashed own.path.text ++ target ↔ KeepsPath base own) := by
  obtain ⟨own, hown, hsame, hpath, hnot⟩ := Resolver.exists_own h
  obtain ⟨hread, hweb, rfl⟩ := Resolver.ofText_of_ofBase h
  refine ⟨own, hown, hsame, ?_, hpath, ?_⟩
  · by_cases hplain : IsPlain base.toList
    · obtain ⟨ss, hss⟩ := (Resolver.isBase_of_ofBase h hplain).path
      refine iff_of_true ?_ (.inl hplain)
      rw [hss, ← eq_slashed_iff, Address.slashed_text_empty]
    · rw [hnot hplain, or_iff_right hplain]
  · intro target htarget hfree
    have hspecial : r.base.isSpecial = true := (Address.isSpecialScheme_of_web hweb).1
    have hresolve : r.resolve target [] = target := by
      rw [resolve, hfree]
      exact String.ofList_toList
    obtain ⟨ss, l, hss, hl⟩ := Address.exists_segments_of_web hread hweb
    obtain ⟨a, ha, hsite, htext⟩ := exists_join_relative hss hspecial htarget
    rw [List.dropLast_concat] at htext
    refine ⟨a, ?_, ?_, ?_⟩
    · simp only [httpAddress, hresolve, ha]
    · exact hsite.trans hsame
    · rw [htext, String.append_left_inj]
      by_cases hplain : IsPlain base.toList
      · obtain ⟨ss', hss'⟩ := (Resolver.isBase_of_ofBase h hplain).path
        obtain ⟨rfl, -⟩ := List.append_inj' (Path.segments.inj (hss.symm.trans hss')) rfl
        rw [← hpath, hss', Address.text_segments_last, String.append_empty]
      · rw [keepsPath_of_not_plain hplain, ← hnot hplain, hss]
        exact folder_eq_slashed_iff hl

/-- Words lead below the path of a plain base. -/
theorem Resolver.leads_below_words : ∃ r own a,
    Resolver.ofBase .default "http://u@h:81/api" = .ok r ∧
    Address.ofText "http://u@h:81/api" = .ok own ∧ r.httpAddress "a-b/c_1" [] = .ok a ∧
    SameSite a own ∧ own.path.text = "/api" ∧ a.path.text = "/api/a-b/c_1" := by
  have hread : (Resolver.ofBase .default "http://u@h:81/api").toOption.map (fun _ => ()) =
      some () := by decide +kernel
  have hpath : (Address.ofText "http://u@h:81/api").toOption.map (·.path.text) = some "/api" := by
    decide +kernel
  have hplain : IsPlain "http://u@h:81/api".toList := by
    rw [IsPlain]
    decide
  have htakes : TakesSlash "http://u@h:81/api".toList := ⟨'i', by decide, by decide, by decide⟩
  obtain ⟨r, hr, -⟩ := exists_ok_of_toOption hread
  obtain ⟨own, hown, hpath⟩ := exists_ok_of_toOption hpath
  obtain ⟨own', hown', -, -, -, hleads⟩ := Resolver.leads_below_iff hr
  obtain rfl : own' = own := Except.ok.inj (hown'.symm.trans hown)
  obtain ⟨a, ha, hsame, htext⟩ := hleads "a-b/c_1" (by decide) (by decide +kernel)
  refine ⟨r, own', a, hr, hown, ha, hsame, hpath, ?_⟩
  rw [htext.mpr ((keepsPath_of_plain hplain).mpr (.inr htakes)), hpath]
  decide

/-- A query at the end of a base takes the slash away from its path. -/
theorem Resolver.slash_taken_away : ∃ r own a,
    Resolver.ofBase .default "http://127.0.0.1:8002/api?x=1" = .ok r ∧
    Address.ofText "http://127.0.0.1:8002/api?x=1" = .ok own ∧
    EndpointTable.default.template? "execution" = none ∧ IsRelative "execution" ∧
    r.httpAddress "execution" [] = .ok a ∧ slashed own.path.text = "/api/" ∧
    a.path.text = "/execution" := by
  have hread : ((Resolver.ofBase .default "http://127.0.0.1:8002/api?x=1").toOption.map fun r =>
      (r.httpAddress "execution" []).toOption.map (·.path.text)) = some (some "/execution") := by
    decide +kernel
  have hpath : (Address.ofText "http://127.0.0.1:8002/api?x=1").toOption.map
      (fun own => slashed own.path.text) = some "/api/" := by
    decide +kernel
  obtain ⟨r, hr, hread⟩ := exists_ok_of_toOption hread
  obtain ⟨a, ha, htext⟩ := exists_ok_of_toOption hread
  obtain ⟨own, hown, hslashed⟩ := exists_ok_of_toOption hpath
  exact ⟨r, own, a, hr, hown, by decide +kernel, by decide, ha, hslashed, htext⟩

end Bases

end Testbed
