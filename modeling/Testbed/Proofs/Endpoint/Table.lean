import Mathlib.Data.List.Nodup
import Testbed.Endpoint
import Testbed.Proofs.Text.Lower

/-!
# The table of endpoints

A table holds the names of its definitions in lower case, each once and where it was defined first,
and a key names the template of the first definition whose name is the key in lower case. So a
definition that comes after one of the same name does nothing.
-/

namespace Testbed.EndpointTable

section LookUp

variable (pairs : List (String × String)) (es : List Endpoint) (name : String)

theorem find?_add (p : String × String) :
    (add es p).find? (·.name == name) =
      (es.find? (·.name == name)).or
        (if Text.lower p.1 = name then some ⟨Text.lower p.1, p.2⟩ else none) := by
  rw [add]
  split
  · next htaken =>
    split
    · next hname =>
      -- the name is taken, and by an endpoint that is found
      subst hname
      obtain ⟨e, he, hname⟩ := List.any_eq_true.mp htaken
      have hfound : (es.find? (·.name == Text.lower p.1)).isSome :=
        List.find?_isSome.mpr ⟨e, he, hname⟩
      rw [Option.or_of_isSome hfound]
    · rw [Option.or_none]
  · rw [List.find?_append, List.find?_singleton]
    simp only [beq_iff_eq]

theorem find?_foldl_add :
    (pairs.foldl add es).find? (·.name == name) =
      (es.find? (·.name == name)).or
        ((pairs.find? (Text.lower ·.1 = name)).map fun p => ⟨Text.lower p.1, p.2⟩) := by
  induction pairs generalizing es with
  | nil => simp
  | cons p pairs ih =>
    rw [List.foldl_cons, ih, find?_add, Option.or_assoc, List.find?_cons]
    by_cases hname : Text.lower p.1 = name <;> simp [hname]

theorem template?_ofPairs (key : String) :
    (ofPairs pairs).template? key =
      (pairs.find? (Text.lower ·.1 = Text.lower key)).map Prod.snd := by
  rw [template?, ofPairs, find?_foldl_add, List.find?_nil, Option.none_or, Option.map_map]
  rfl

/-- With definitions there are no built-in endpoints. -/
theorem template?_ofDefinitions (hne : pairs ≠ []) (key : String) :
    (ofDefinitions pairs).template? key =
      (pairs.find? (Text.lower ·.1 = Text.lower key)).map Prod.snd := by
  rw [ofDefinitions, if_neg (by simpa using hne), template?_ofPairs]

end LookUp

section Names

variable {pairs : List (String × String)} {es : List Endpoint} {p : String × String}

def names (t : EndpointTable) : List String := t.endpoints.map Endpoint.name

theorem any_name_iff {name : String} :
    es.any (·.name == name) = true ↔ name ∈ es.map Endpoint.name := by
  simp [List.mem_map]

theorem add_of_mem (h : Text.lower p.1 ∈ es.map Endpoint.name) : add es p = es := by
  rw [add]
  exact if_pos (any_name_iff.mpr h)

theorem add_of_not_mem (h : Text.lower p.1 ∉ es.map Endpoint.name) :
    add es p = es ++ [⟨Text.lower p.1, p.2⟩] := by
  rw [add]
  exact if_neg fun hany => h (any_name_iff.mp hany)

theorem mem_names_add (es : List Endpoint) (p : String × String) (name : String) :
    name ∈ (add es p).map Endpoint.name ↔
      name ∈ es.map Endpoint.name ∨ name = Text.lower p.1 := by
  by_cases htaken : Text.lower p.1 ∈ es.map Endpoint.name
  · rw [add_of_mem htaken]
    constructor
    · exact Or.inl
    · rintro (h | rfl)
      · exact h
      · exact htaken
  · rw [add_of_not_mem htaken, List.map_append, List.mem_append, List.map_singleton,
      List.mem_singleton]

theorem nodup_names_add (h : (es.map Endpoint.name).Nodup) (p : String × String) :
    ((add es p).map Endpoint.name).Nodup := by
  by_cases htaken : Text.lower p.1 ∈ es.map Endpoint.name
  · rwa [add_of_mem htaken]
  · rw [add_of_not_mem htaken, List.map_append, List.nodup_append]
    refine ⟨h, List.nodup_singleton _, ?_⟩
    intro name hname name' hname' heq
    rw [heq, List.mem_singleton.mp hname'] at hname
    exact htaken hname

theorem mem_names_foldl_add (pairs : List (String × String)) (es : List Endpoint)
    (name : String) :
    name ∈ (pairs.foldl add es).map Endpoint.name ↔
      name ∈ es.map Endpoint.name ∨ name ∈ pairs.map (Text.lower ·.1) := by
  induction pairs generalizing es with
  | nil => simp
  | cons p pairs ih =>
    rw [List.foldl_cons, ih, mem_names_add, List.map_cons, List.mem_cons, or_assoc]

theorem nodup_names_foldl_add (h : (es.map Endpoint.name).Nodup)
    (pairs : List (String × String)) : ((pairs.foldl add es).map Endpoint.name).Nodup := by
  induction pairs generalizing es with
  | nil => exact h
  | cons p pairs ih => exact ih (nodup_names_add h p)

/-- Behind the names that are there stand those of the definitions that are new, each where it was
defined first. -/
theorem names_foldl_add (pairs : List (String × String)) (es : List Endpoint) :
    (pairs.foldl add es).map Endpoint.name = es.map Endpoint.name ++
      ((pairs.map (Text.lower ·.1)).removeAll (es.map Endpoint.name)).eraseDups := by
  induction pairs generalizing es with
  | nil => simp [List.removeAll]
  | cons p pairs ih =>
    rw [List.foldl_cons, ih, List.map_cons]
    by_cases htaken : Text.lower p.1 ∈ es.map Endpoint.name
    · rw [add_of_mem htaken, List.cons_removeAll, if_neg (by simpa using htaken)]
    · rw [add_of_not_mem htaken, List.cons_removeAll, if_pos (by simpa using htaken),
        List.eraseDups_cons, List.map_append, List.map_singleton, List.append_assoc,
        List.singleton_append]
      congr 3
      simp only [List.removeAll, List.filter_filter]
      apply List.filter_congr
      intro name _
      simp [Bool.and_comm, beq_eq_decide]

theorem names_ofPairs (pairs : List (String × String)) :
    (ofPairs pairs).names = (pairs.map (Text.lower ·.1)).eraseDups := by
  rw [names, ofPairs, names_foldl_add]
  simp [List.removeAll]

/-- A definition behind one of the same name does nothing. -/
theorem foldl_add_repeated {q : String × String} (h : Text.lower p.1 = Text.lower q.1)
    (before between after : List (String × String)) (es : List Endpoint) :
    (before ++ p :: (between ++ q :: after)).foldl add es =
      (before ++ p :: (between ++ after)).foldl add es := by
  simp only [List.foldl_append, List.foldl_cons]
  have htaken : Text.lower q.1 ∈
      (between.foldl add (add (before.foldl add es) p)).map Endpoint.name := by
    rw [mem_names_foldl_add, mem_names_add]
    exact .inl (.inr h.symm)
  rw [add_of_mem htaken]

end Names

/-- A table is never empty. Its names are those of the definitions in lower case, each once and in
the order in which they were defined first, and a key has the template of the first definition
that has its name. So keys of one name have one template, and a definition that is put in behind
one of its name leaves the table as it is. Without definitions all this holds of the built-in
ones. -/
theorem first_definition_counts :
    ofDefinitions [] = ofDefinitions builtIn ∧
    ∀ pairs ≠ [],
      (ofDefinitions pairs).size ≠ 0 ∧
      (ofDefinitions pairs).names.Nodup ∧
      (ofDefinitions pairs).names = (pairs.map (Text.lower ·.1)).eraseDups ∧
      (∀ name ∈ (ofDefinitions pairs).names, Text.lower name = name) ∧
      (∀ key, (ofDefinitions pairs).template? key =
        (pairs.find? (Text.lower ·.1 = Text.lower key)).map Prod.snd) ∧
      (∀ key key', Text.lower key = Text.lower key' →
        (ofDefinitions pairs).template? key = (ofDefinitions pairs).template? key') ∧
      ∀ before p between after, pairs = before ++ p :: (between ++ after) →
        ∀ q : String × String, Text.lower q.1 = Text.lower p.1 →
          ofDefinitions (before ++ p :: (between ++ q :: after)) = ofDefinitions pairs := by
  refine ⟨rfl, ?_⟩
  intro pairs hne
  have htable : ofDefinitions pairs = ofPairs pairs := by
    rw [ofDefinitions, if_neg (by simpa using hne)]
  have hnames : (ofDefinitions pairs).names = (pairs.map (Text.lower ·.1)).eraseDups := by
    rw [htable, names_ofPairs]
  have hmem (name : String) :
      name ∈ (ofDefinitions pairs).names ↔ ∃ p ∈ pairs, Text.lower p.1 = name := by
    rw [hnames, List.mem_eraseDups, List.mem_map]
  refine ⟨?_, ?_, hnames, ?_, template?_ofDefinitions pairs hne, ?_, ?_⟩
  · obtain ⟨p, hp⟩ := List.exists_mem_of_ne_nil pairs hne
    have hfirst : Text.lower p.1 ∈ (ofDefinitions pairs).names := (hmem _).mpr ⟨p, hp, rfl⟩
    rw [size, ← List.length_map (f := Endpoint.name)]
    exact Nat.pos_iff_ne_zero.mp (List.length_pos_of_mem hfirst)
  · rw [htable]
    have hempty : (([] : List Endpoint).map Endpoint.name).Nodup := List.nodup_nil
    exact nodup_names_foldl_add hempty pairs
  · intro name hname
    obtain ⟨p, -, rfl⟩ := (hmem name).mp hname
    exact Text.lower_lower p.1
  · intro key key' h
    simp only [template?, h]
  · rintro before p between after rfl q h
    rw [htable, ofDefinitions, if_neg (by simp), ofPairs, foldl_add_repeated h.symm]
    rfl

/-- A final sigma is written as one in the table, and the key finds it. -/
theorem first_definition_counts_sigma :
    let pairs := [("ΟΔΟΣ", "first/"), ("Login", "second/")]
    pairs ≠ [] ∧ (ofDefinitions pairs).names = ["οδος", "login"] ∧
      (ofDefinitions pairs).template? "Οδος" = some "first/" ∧
      Text.lower "οδοΣ" = Text.lower "ΟΔΟΣ" ∧
      ofDefinitions [("ΟΔΟΣ", "first/"), ("οδοΣ", "third/"), ("Login", "second/")] =
        ofDefinitions pairs := by
  intro pairs
  have hne : pairs ≠ [] := List.cons_ne_nil _ _
  have hfold : Text.lower "οδοΣ" = Text.lower "ΟΔΟΣ" := by decide +kernel
  obtain ⟨-, -, hnames, -, htemplate, -, hput⟩ := first_definition_counts.2 pairs hne
  refine ⟨hne, hnames.trans ?_, (htemplate "Οδος").trans ?_, hfold, ?_⟩
  · decide +kernel
  · decide +kernel
  · exact hput [] ("ΟΔΟΣ", "first/") [] [("Login", "second/")] rfl ("οδοΣ", "third/") hfold

end Testbed.EndpointTable
