import Testbed.Plan
import Testbed.Proofs.Address.Base
import Testbed.Proofs.Address.Reference

/-!
# Where test cases are

The targets of a test case, filled in from the built-in table, and the addresses that they lead to
below a base. The identifier of a test case cannot reach outside its place in the path: whatever it
holds is encoded there, and only identifiers of one or two dots are taken for steps.
-/

namespace Testbed

open Address (IsData addPieces addPieces_empty isDoubleDot isSingleDot queryChars)
open Text (cut)

namespace Template

section Filling

variable {piece value s : List Char}

theorem replaceFrom_skip (s r : List Char) :
    replaceFrom piece value s.length (s ++ r) = replaceFrom piece value 0 r := by
  induction s with
  | nil => rfl
  | cons c s ih => rw [List.length_cons, List.cons_append, replaceFrom, ih]

theorem replaceFrom_copy (hs : '\x7b' ∉ s) (r : List Char) :
    replaceFrom ('\x7b' :: piece) value 0 (s ++ r) =
      s ++ replaceFrom ('\x7b' :: piece) value 0 r := by
  induction s with
  | nil => rfl
  | cons c s ih =>
    have hc : ('\x7b' == c) = false := by
      simpa using fun e : '\x7b' = c => hs (e ▸ List.mem_cons_self)
    rw [List.cons_append, replaceFrom, List.isPrefixOf_cons_cons, hc, Bool.false_and,
      if_neg Bool.false_ne_true, ih fun e => hs (List.mem_cons_of_mem _ e), List.cons_append]

theorem replaceFrom_piece (c : Char) (r : List Char) :
    replaceFrom (c :: piece) value 0 (c :: piece ++ r) =
      value ++ replaceFrom (c :: piece) value 0 r := by
  have hpre : (c :: piece).isPrefixOf (c :: (piece ++ r)) = true := by
    rw [List.isPrefixOf_iff_prefix]
    exact List.prefix_append (c :: piece) r
  rw [List.cons_append, replaceFrom, if_pos hpre, List.length_cons, Nat.add_sub_cancel,
    replaceFrom_skip]

theorem fill_placeholder (hs : '\x7b' ∉ s) (name v : String) (r : List Char) :
    fill (s ++ (placeholder name ++ r)) (name, v) =
      s ++ (encodedValue v ++ replaceFrom (placeholder name) (encodedValue v) 0 r) := by
  rw [fill, placeholder, replaceFrom_copy hs, replaceFrom_piece]

theorem isData_of_mem_encodedValue {v : String} {c : Char} (h : c ∈ encodedValue v) : IsData c :=
  Address.isData_of_mem_encode h

end Filling

end Template

open Template (encodedValue fill fillAll placeholder)

def encodedId (id : String) : String := String.ofList (encodedValue id)

section Targets

variable (id : String) (kind : ScriptKind)

def streamWay : String := "testcases/" ++ encodedId id ++ "/execute-ws"

def streamQuery : String := "script_type=" ++ kind.name

def planWay : String := "testplan/" ++ encodedId id

@[simp] theorem toList_encodedId : (encodedId id).toList = encodedValue id := String.toList_ofList

theorem toList_streamWay : (streamWay id).toList =
    "testcases".toList ++ '/' :: (encodedValue id ++ '/' :: "execute-ws".toList) := by
  simp [streamWay]

theorem toList_planWay : (planWay id).toList = "testplan".toList ++ '/' :: encodedValue id := by
  simp [planWay]

theorem encodedValue_kind : encodedValue kind.name = kind.name.toList := by
  refine Text.Percent.encode_of_kept (List.all_eq_true.mp ?_)
  cases kind <;> decide

theorem fillAll_stream :
    fillAll "testcases/\x7btestCaseId\x7d/execute-ws?script_type=\x7bscript_type\x7d"
        [("testCaseId", id), ("script_type", kind.name)] =
      String.ofList ((streamWay id).toList ++ queryChars (some (streamQuery kind).toList)) := by
  have htemplate :
      "testcases/\x7btestCaseId\x7d/execute-ws?script_type=\x7bscript_type\x7d".toList =
      "testcases/".toList ++ (placeholder "testCaseId" ++
        ("/execute-ws?script_type=".toList ++ placeholder "script_type")) := by
    decide +kernel
  have hrest (v : List Char) : Template.replaceFrom (placeholder "testCaseId") v 0
      ("/execute-ws?script_type=".toList ++ placeholder "script_type") =
        "/execute-ws?script_type=".toList ++ placeholder "script_type" := by
    simp [placeholder, Template.replaceFrom]
  have hmark : '\x7b' ∉ "testcases/".toList ++ (encodedValue id ++
      "/execute-ws?script_type=".toList) := by
    simp only [List.mem_append, not_or]
    exact ⟨by decide, fun h => (Template.isData_of_mem_encodedValue h).ne.2.2.2.2 rfl, by decide⟩
  have hsecond := Template.fill_placeholder hmark "script_type" kind.name []
  rw [fillAll, List.foldl_cons, htemplate, Template.fill_placeholder (by decide), hrest]
  simp only [List.append_assoc, List.append_nil] at hsecond
  rw [List.foldl_cons, List.foldl_nil, hsecond, encodedValue_kind]
  simp [streamWay, streamQuery, queryChars, Template.replaceFrom]

theorem fillAll_plan :
    fillAll "testplan/\x7btestCaseId\x7d" [("testCaseId", id)] =
      String.ofList ((planWay id).toList ++ queryChars none) := by
  have htemplate : "testplan/\x7btestCaseId\x7d".toList =
      "testplan/".toList ++ (placeholder "testCaseId" ++ []) := by decide +kernel
  rw [fillAll, List.foldl_cons, List.foldl_nil, htemplate, Template.fill_placeholder (by decide)]
  simp [planWay, queryChars, Template.replaceFrom]

end Targets

section Steps

variable {before : List String} {word : List Char}

structure IsWord (word : List Char) : Prop where
  data : ∀ c ∈ word, IsData c
  single : isSingleDot word = false
  double : isDoubleDot word = false
  drive : Address.isDrive (String.ofList word) = false

def leftOver : List (List Char) → List (List Char)
  | [] => [[]]
  | p :: r => p :: r

theorem addPieces_single (before : List String) (r : List (List Char)) :
    addPieces false before (['.'] :: r) = addPieces false before (leftOver r) := by
  rw [addPieces, if_neg (by decide), if_pos (by decide)]
  cases r with
  | nil => exact (addPieces_empty before).symm
  | cons p r => rfl

/-- Two dots take the step back that leads to a word. -/
theorem addPieces_double {word : String} (h : Address.isDrive word = false) (before : List String)
    (r : List (List Char)) :
    addPieces false (before ++ [word]) (['.', '.'] :: r) =
      addPieces false before (leftOver r) := by
  have hback : Address.shorten (before ++ [word]) = before := by simp [Address.shorten, h]
  rw [addPieces, if_pos (by decide), hback]
  cases r with
  | nil => exact (addPieces_empty before).symm
  | cons p r => rfl

/-- Below a word, an identifier is a segment unless it is dots. -/
theorem addPieces_id (hword : IsWord word) (id : String) (r : List (List Char)) :
    addPieces false before (word :: encodedValue id :: r) =
      if id = "." then addPieces false (before ++ [String.ofList word]) (leftOver r)
      else if id = ".." then addPieces false before (leftOver r)
      else addPieces false (before ++ [String.ofList word, encodedId id]) r := by
  rw [Address.addPieces_data hword.single hword.double hword.data]
  split_ifs with hone htwo
  · rw [hone]
    exact addPieces_single _ r
  · rw [htwo]
    exact addPieces_double hword.drive before r
  · have hsingle : isSingleDot (encodedValue id) = false := by
      rw [Bool.eq_false_iff, Ne, encodedValue, Address.isSingleDot_encode]
      exact fun h => hone (String.toList_inj.mp h)
    have hdouble : isDoubleDot (encodedValue id) = false := by
      rw [Bool.eq_false_iff, Ne, encodedValue, Address.isDoubleDot_encode]
      exact fun h => htwo (String.toList_inj.mp h)
    rw [Address.addPieces_data hsingle hdouble fun _ => Template.isData_of_mem_encodedValue,
      List.append_assoc]
    rfl

end Steps

section Places

/-- Where the way to the stream of a test case leads. -/
def streamPlace (id : String) : String :=
  if id = "." then "testcases/execute-ws" else if id = ".." then "execute-ws" else streamWay id

def planPlace (id : String) : String :=
  if id = "." then "testplan/" else if id = ".." then "" else planWay id

theorem slash_not_mem_encodedValue (id : String) : '/' ∉ encodedValue id :=
  fun h => (Template.isData_of_mem_encodedValue h).ne.1 rfl

theorem isWord_testcases : IsWord "testcases".toList := by
  refine ⟨Address.isData_of_all ?_, ?_, ?_, ?_⟩ <;> decide

theorem isWord_testplan : IsWord "testplan".toList := by
  refine ⟨Address.isData_of_all ?_, ?_, ?_, ?_⟩ <;> decide

theorem isWord_stream : IsWord "execute-ws".toList := by
  refine ⟨Address.isData_of_all ?_, ?_, ?_, ?_⟩ <;> decide

theorem cut_streamWay (id : String) : cut '/' (streamWay id).toList =
    ["testcases".toList, encodedValue id, "execute-ws".toList] := by
  rw [toList_streamWay, Text.cut_append_sep, Text.cut_append_sep,
    Text.cut_of_not_mem (slash_not_mem_encodedValue id), Text.cut_of_not_mem (by decide),
    Text.cut_of_not_mem (by decide)]
  rfl

theorem cut_planWay (id : String) : cut '/' (planWay id).toList =
    ["testplan".toList, encodedValue id] := by
  rw [toList_planWay, Text.cut_append_sep, Text.cut_of_not_mem (by decide),
    Text.cut_of_not_mem (slash_not_mem_encodedValue id)]
  rfl

theorem text_streamWay (ss : List String) (id : String) :
    (Path.segments (addPieces false ss (cut '/' (streamWay id).toList))).text =
      (Path.segments (ss ++ [""])).text ++ streamPlace id := by
  have hlast (before : List String) : addPieces false before ["execute-ws".toList] =
      before ++ ["execute-ws"] := by
    rw [Address.addPieces_data isWord_stream.single isWord_stream.double isWord_stream.data,
      String.ofList_toList]
    rfl
  rw [cut_streamWay, addPieces_id isWord_testcases, leftOver, hlast, hlast, hlast,
    String.ofList_toList, streamPlace]
  apply String.toList_injective
  split_ifs <;> simp [text_segments_append, streamWay]

theorem text_planWay (ss : List String) (id : String) :
    (Path.segments (addPieces false ss (cut '/' (planWay id).toList))).text =
      (Path.segments (ss ++ [""])).text ++ planPlace id := by
  rw [cut_planWay, addPieces_id isWord_testplan, leftOver, addPieces_empty, addPieces_empty,
    addPieces, String.ofList_toList, planPlace]
  apply String.toList_injective
  split_ifs <;> simp [text_segments_append, planWay]

theorem encodedValue_injective : Function.Injective encodedValue := by
  intro id id' h
  exact String.toList_injective (Text.Percent.encode_injective rfl h)

theorem cut_streamPlace (id : String) : cut '/' (streamPlace id).toList =
    if id = "." then ["testcases".toList, "execute-ws".toList]
    else if id = ".." then ["execute-ws".toList]
    else ["testcases".toList, encodedValue id, "execute-ws".toList] := by
  unfold streamPlace
  split_ifs
  · decide
  · decide
  · exact cut_streamWay id

theorem cut_planPlace (id : String) : cut '/' (planPlace id).toList =
    if id = "." then ["testplan".toList, []]
    else if id = ".." then [[]]
    else ["testplan".toList, encodedValue id] := by
  unfold planPlace
  split_ifs
  · decide
  · decide
  · exact cut_planWay id

/-- The streams of different test cases are at different places. -/
theorem streamPlace_injective : Function.Injective streamPlace := by
  intro id id' h
  -- the number of pieces tells one dot, two dots and all other identifiers apart
  have hcut := congrArg (fun s => cut '/' (String.toList s)) h
  simp only [cut_streamPlace] at hcut
  split_ifs at hcut <;> simp_all [encodedValue_injective.eq_iff]

/-- The plans of different test cases are at different places, but an empty identifier is taken for
a step that goes nowhere. -/
theorem planPlace_eq {id id' : String} (h : planPlace id = planPlace id') :
    id = id' ∨ id = "" ∧ id' = "." ∨ id = "." ∧ id' = "" := by
  have hempty (id : String) : encodedValue id = [] ↔ id = "" :=
    encodedValue_injective.eq_iff' rfl
  have hcut := congrArg (fun s => cut '/' (String.toList s)) h
  simp only [cut_planPlace] at hcut
  split_ifs at hcut <;> simp_all [encodedValue_injective.eq_iff]

end Places

end Testbed
