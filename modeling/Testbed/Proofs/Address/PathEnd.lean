import Mathlib.Data.List.TakeWhile
import Testbed.Proofs.Address.Base
import Testbed.Proofs.Address.Blank
import Testbed.Proofs.Address.Reference

/-!
# The end of a path

What a slash behind the text of a path makes of its last segment. It ends the path just if it
follows a character that is no slash: a slash before it leaves an empty segment between the two, and
a blank is written in the path as it is encoded.
-/

namespace Testbed.Address

open Text (cut)

theorem isSlash_of_blank {c : Char} (hc : IsBlankEnd c) : isSlash true c = false := by
  have hslash : c ≠ '/' := hc.ne (by decide)
  have hback : c ≠ '\\' := hc.ne (by decide)
  simp [isSlash, hslash, hback]

variable {c : Char} {blanks : List Char}

theorem exists_addPieces_append (before : List String) (ps : List (List Char)) :
    ∃ before', ∀ rest ≠ [],
      addPieces false before (ps ++ rest) = addPieces false before' rest := by
  induction ps generalizing before with
  | nil => exact ⟨before, fun _ _ => rfl⟩
  | cons p ps ih =>
    have hmore {rest : List (List Char)} (h : rest ≠ []) : (ps ++ rest).isEmpty = false := by
      simp [h]
    by_cases hdouble : isDoubleDot p = true
    · obtain ⟨before', hbefore⟩ := ih (shorten before)
      refine ⟨before', fun rest h => ?_⟩
      rw [List.cons_append, addPieces, if_pos hdouble, hmore h, ← hbefore rest h]
      rfl
    by_cases hsingle : isSingleDot p = true
    · obtain ⟨before', hbefore⟩ := ih before
      refine ⟨before', fun rest h => ?_⟩
      rw [List.cons_append, addPieces, if_neg hdouble, if_pos hsingle, hmore h, ← hbefore rest h]
      rfl
    · obtain ⟨before', hbefore⟩ := ih (before ++ [segmentOf false before p])
      refine ⟨before', fun rest h => ?_⟩
      rw [List.cons_append, addPieces, if_neg hdouble, if_neg hsingle, ← hbefore rest h]

/-- The last piece of a text, and how the text is cut if more stands behind it. -/
theorem exists_last_piece (sep : Char) (s : List Char) : ∃ u last init,
    s = u ++ last ∧ sep ∉ last ∧ (∀ c ∈ u.getLast?, c = sep) ∧
      ∀ b, sep ∉ b → cut sep (s ++ b) = init ++ [last ++ b] := by
  have hone {a b : List Char} (ha : sep ∉ a) (hb : sep ∉ b) : cut sep (a ++ b) = [a ++ b] :=
    Text.cut_of_not_mem fun h => (List.mem_append.mp h).elim ha hb
  by_cases hsep : sep ∈ s.reverse
  · obtain ⟨a, b, hs, ha⟩ := List.eq_append_cons_of_mem hsep
    have hs' : s = b.reverse ++ [sep] ++ a.reverse := by
      simpa using congrArg List.reverse hs
    refine ⟨b.reverse ++ [sep], a.reverse, cut sep b.reverse, hs', by simpa using ha, by simp, ?_⟩
    intro t ht
    rw [hs', List.append_assoc, List.append_assoc, List.singleton_append, Text.cut_append_sep,
      hone (by simpa using ha) ht]
  · have hs : sep ∉ s := by simpa using hsep
    exact ⟨[], s, [], rfl, hs, by simp, fun b hb => hone hs hb⟩

theorem not_dots_of_blank (hc : IsBlankEnd c) (p : List Char) :
    isSingleDot (p ++ [c]) = false ∧ isDoubleDot (p ++ [c]) = false := by
  have hle : c.toNat ≤ 0x20 := hc
  have hbytes : Text.Percent.decode (p ++ [c]) = Text.Percent.decode p ++ [.ofNat c.toNat] := by
    rw [Text.Percent.decode_concat (Text.Percent.hexValue?_of_blank hc),
      Text.Utf8.encodeChar_of_blank hc]
  have hdot : UInt8.ofNat c.toNat ≠ 0x2E := by
    intro h
    have := congrArg UInt8.toNat h
    simp at this
    omega
  have hlast (h : (Text.Percent.decode (p ++ [c])).getLast? = some 0x2E) : False := by
    rw [hbytes, List.getLast?_concat] at h
    exact hdot (Option.some.inj h)
  constructor <;> rw [Bool.eq_false_iff] <;> intro h
  · exact hlast (by rw [decode_of_isSingleDot h]; rfl)
  · exact hlast (by rw [decode_of_isDoubleDot h]; rfl)

def slashed (s : String) : String := if s.toList.getLast? = some '/' then s else s ++ "/"

theorem slashed_of_slash (s : String) : slashed (s ++ "/") = s ++ "/" := by simp [slashed]

theorem length_slashed_le (s : String) : (slashed s).length ≤ s.length + 1 := by
  rw [slashed]
  split_ifs
  · exact Nat.le_succ _
  · exact (String.length_append _ _).le

theorem length_encoded_pos {keep : Char → Bool} {p : List Char} (hp : p ≠ []) :
    0 < (encoded keep p).length := by
  obtain ⟨c, p, rfl⟩ := List.exists_cons_of_ne_nil hp
  have hbytes : Text.Utf8.encodeChar c ≠ [] := by
    rw [Text.Utf8.encodeChar]
    split_ifs <;> simp
  obtain ⟨b, bytes, hbytes⟩ := List.exists_cons_of_ne_nil hbytes
  rw [encoded, String.length_ofList]
  refine List.length_pos_of_ne_nil ?_
  simp only [Text.Percent.encode, List.flatMap_cons, Text.Percent.encodeChar, hbytes]
  split_ifs <;> simp [Text.Percent.encodeByte]

theorem encoded_append (keep : Char → Bool) (p r : List Char) :
    encoded keep (p ++ r) = encoded keep p ++ encoded keep r := by
  simp [encoded, Text.Percent.encode]

theorem slash_not_mem_encoded {keep : Char → Bool} {p : List Char} (h : '/' ∉ p) :
    '/' ∉ (encoded keep p).toList := by
  intro hmem
  rw [encoded, String.toList_ofList] at hmem
  obtain ⟨d, hd, hmem⟩ := List.mem_flatMap.mp hmem
  unfold Text.Percent.encodeChar at hmem
  split at hmem
  · exact h (List.mem_singleton.mp hmem ▸ hd)
  · obtain ⟨b, -, hb⟩ := List.mem_flatMap.mp hmem
    rcases Text.Percent.mem_encodeByte hb with h | h
    · exact absurd h (by decide)
    · exact absurd h (by decide)

section LastPiece

variable (before : List String) {p : List Char}

theorem addPieces_of_not_dots (hsingle : isSingleDot p = false) (hdouble : isDoubleDot p = false)
    (r : List (List Char)) :
    addPieces false before (p :: r) = addPieces false (before ++ [encoded keepsInPath p]) r := by
  rw [addPieces, hdouble, hsingle, if_neg Bool.false_ne_true, if_neg Bool.false_ne_true]
  rfl

/-- The last piece leads back if it is dots, and otherwise it is the last segment. -/
theorem addPieces_last (p : List Char) :
    (∃ less, less <+: before ∧ addPieces false before [p] = less ++ [""] ∧
      addPieces false before [p, []] = less ++ [""]) ∨
    addPieces false before [p] = before ++ [encoded keepsInPath p] ∧
      addPieces false before [p, []] = before ++ [encoded keepsInPath p] ++ [""] := by
  cases hdouble : isDoubleDot p with
  | true =>
    refine .inl ⟨shorten before, ?_, by simp [addPieces, hdouble], ?_⟩
    · rw [shorten]
      split_ifs
      · exact List.prefix_rfl
      · exact List.dropLast_prefix before
    · rw [addPieces, if_pos hdouble]
      exact addPieces_empty _
  | false =>
    cases hsingle : isSingleDot p with
    | true =>
      refine .inl ⟨before, List.prefix_rfl, by simp [addPieces, hdouble, hsingle], ?_⟩
      rw [addPieces, hdouble, if_neg Bool.false_ne_true, if_pos hsingle]
      exact addPieces_empty _
    | false =>
      refine .inr ⟨addPieces_of_not_dots before hsingle hdouble [], ?_⟩
      rw [addPieces_of_not_dots before hsingle hdouble, addPieces_empty]

theorem text_segments_last (ss : List String) (s : String) :
    (Path.segments (ss ++ [s])).text = (Path.segments ss).text ++ "/" ++ s := by
  simp [text_segments_append, String.append_assoc]

theorem length_text_last (ss : List String) (s : String) :
    (Path.segments (ss ++ [s])).text.length = (Path.segments ss).text.length + 1 + s.length := by
  rw [text_segments_last, String.length_append, String.length_append]
  rfl

theorem slashed_text_empty (ss : List String) :
    slashed (Path.segments (ss ++ [""])).text = (Path.segments (ss ++ [""])).text := by
  rw [text_segments_last, String.append_empty, slashed_of_slash]

/-- After a piece that is not empty a slash ends the path. -/
theorem text_addPieces_slash (hp : p ≠ []) (hslash : '/' ∉ p) :
    (Path.segments (addPieces false before [p, []])).text =
      slashed (Path.segments (addPieces false before [p])).text := by
  rcases addPieces_last before p with ⟨less, -, hone, htwo⟩ | ⟨hone, htwo⟩
  · rw [hone, htwo, slashed_text_empty]
  · rw [hone, htwo, text_segments_last, String.append_empty, slashed, if_neg]
    rw [text_segments_last, String.toList_append]
    intro hlast
    have hsome : (encoded keepsInPath p).toList ≠ [] := by
      have hlength : 0 < (encoded keepsInPath p).length := length_encoded_pos hp
      intro hnil
      rw [← String.length_toList, hnil] at hlength
      exact absurd hlength (by decide)
    rw [List.getLast?_append_of_ne_nil _ hsome] at hlast
    exact slash_not_mem_encoded hslash (List.mem_of_getLast? hlast)

theorem text_addPieces_slash_iff (hslash : '/' ∉ p) :
    (Path.segments (addPieces false before [p, []])).text =
        slashed (Path.segments (addPieces false before [p])).text ↔ p ≠ [] := by
  refine ⟨?_, fun hp => text_addPieces_slash before hp hslash⟩
  -- an empty segment after the last one makes the path longer
  rintro heq rfl
  have htwo : addPieces false before [[], []] = before ++ [""] ++ [""] := rfl
  rw [htwo, addPieces_empty, slashed_text_empty] at heq
  have hlength := congrArg String.length heq
  rw [length_text_last] at hlength
  omega

/-- What the last piece makes of a path is not longer than the piece as it is written. -/
theorem length_addPieces_le (p : List Char) :
    (Path.segments (addPieces false before [p])).text.length ≤
      (Path.segments before).text.length + 1 + (encoded keepsInPath p).length := by
  rcases addPieces_last before p with ⟨less, ⟨more, rfl⟩, hone, -⟩ | ⟨hone, -⟩
  · rw [hone, length_text_last, text_segments_append, String.length_append]
    exact Nat.add_le_add (by omega) (Nat.zero_le _)
  · rw [hone, length_text_last]

/-- Blanks behind the last piece are written in the path, which makes it longer. -/
theorem text_addPieces_blank_ne {c : Char} (hc : IsBlankEnd c) (p blanks : List Char) :
    (Path.segments (addPieces false before [p ++ (blanks ++ [c]), []])).text ≠
      slashed (Path.segments (addPieces false before [p])).text := by
  intro heq
  have hdots := not_dots_of_blank hc (p ++ blanks)
  rw [List.append_assoc] at hdots
  rw [addPieces_of_not_dots before hdots.1 hdots.2, addPieces_empty] at heq
  have hlength := congrArg String.length heq
  have hone := length_addPieces_le before p
  have hslashed := length_slashed_le (Path.segments (addPieces false before [p])).text
  have hblank : 0 < (encoded keepsInPath (blanks ++ [c])).length := length_encoded_pos (by simp)
  rw [length_text_last, length_text_last, encoded_append, String.length_append] at hlength
  omega

end LastPiece

section Dividers

def divider (c : Char) : Char := if isSlash true c then '/' else c

theorem pieces_eq (q : List Char) : pieces true q = cut '/' (q.map divider) := rfl

theorem divider_of_not {c : Char} (hc : isSlash true c = false) : divider c = c := by
  simp [divider, hc]

/-- The last piece of a text is empty just if a slash ends the text. -/
theorem last_piece_ne_nil_iff {q u last : List Char} (hq : q.map divider = u ++ last)
    (hlast : '/' ∉ last) (hu : ∀ d ∈ u.getLast?, d = '/') :
    (∃ d ∈ q.getLast?, isSlash true d = false) ↔ last ≠ [] := by
  have hmap : (u ++ last).getLast? = q.getLast?.map divider := by rw [← hq, List.getLast?_map]
  constructor
  · rintro ⟨d, hd, hslash⟩ rfl
    rw [List.append_nil, hd, Option.map_some, divider_of_not hslash] at hmap
    rw [hu d hmap] at hslash
    cases hslash
  · intro hne
    rw [List.getLast?_append_of_ne_nil _ hne] at hmap
    cases hd : q.getLast? with
    | none => simp [hd, hne] at hmap
    | some d =>
      refine ⟨d, rfl, Bool.eq_false_iff.mpr fun hslash => hlast ?_⟩
      have hdivider : divider d = '/' := if_pos hslash
      rw [hd, Option.map_some, hdivider] at hmap
      exact List.mem_of_getLast? hmap

end Dividers

theorem exists_readPath_last (q : List Char) :
    ∃ ss l, readPath true [] q = ss ++ [l] ∧ '/' ∉ l.toList := by
  obtain ⟨-, last, init, -, hlast, -, hcut⟩ :=
    exists_last_piece '/' (q.map divider)
  obtain ⟨before, hbefore⟩ := exists_addPieces_append [] init
  have hpieces := hcut [] List.not_mem_nil
  rw [List.append_nil, List.append_nil] at hpieces
  rw [readPath, pieces_eq, hpieces, hbefore _ (List.cons_ne_nil _ _)]
  rcases addPieces_last before last with ⟨less, -, hone, -⟩ | ⟨hone, -⟩
  · exact ⟨less, "", hone, by decide⟩
  · exact ⟨before, _, hone, slash_not_mem_encoded hlast⟩

/-- The slash behind a path ends it just if it follows a character that is no slash. -/
theorem text_readPath_slash (hblanks : ∀ c ∈ blanks, IsBlankEnd c) (q : List Char) :
    (Path.segments (readPath true [] (q ++ (blanks ++ ['/'])))).text =
        slashed (Path.segments (readPath true [] q)).text ↔
      blanks = [] ∧ ∃ d ∈ q.getLast?, isSlash true d = false := by
  obtain ⟨u, last, init, hq, hlast, hu, hcut⟩ := exists_last_piece '/' (q.map divider)
  obtain ⟨before, hbefore⟩ := exists_addPieces_append [] init
  have hkept : blanks.map divider = blanks :=
    (List.map_congr_left fun c hc => divider_of_not (isSlash_of_blank (hblanks c hc))).trans
      (List.map_id blanks)
  have hfree : '/' ∉ blanks := fun h => absurd (hblanks _ h) (by decide)
  have hown : readPath true [] q = addPieces false before [last] := by
    have hpieces := hcut [] List.not_mem_nil
    rw [List.append_nil, List.append_nil] at hpieces
    rw [readPath, pieces_eq, hpieces, hbefore _ (List.cons_ne_nil _ _)]
  have hnew : readPath true [] (q ++ (blanks ++ ['/'])) =
      addPieces false before [last ++ blanks, []] := by
    have hpieces : pieces true (q ++ (blanks ++ ['/'])) = init ++ [last ++ blanks, []] := by
      rw [pieces_eq, List.map_append, List.map_append, hkept, ← List.append_assoc]
      exact (Text.cut_append_sep '/' _ []).trans (by rw [hcut _ hfree]; simp [cut])
    rw [readPath, hpieces, hbefore _ (List.cons_ne_nil _ _)]
  rw [hown, hnew, last_piece_ne_nil_iff hq hlast hu]
  rcases List.eq_nil_or_concat' blanks with rfl | ⟨blanks', c, rfl⟩
  · rw [List.append_nil, and_iff_right rfl]
    exact text_addPieces_slash_iff before hlast
  · refine iff_of_false ?_ fun h => absurd h.1 (by simp)
    exact text_addPieces_blank_ne before (hblanks c (by simp)) last blanks'

end Testbed.Address
