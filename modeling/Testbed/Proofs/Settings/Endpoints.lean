import Mathlib.Tactic.Convert
import Testbed.Proofs.Endpoint.Table
import Testbed.Proofs.Gives
import Testbed.Proofs.Toml.Statements
import Testbed.Proofs.Toml.Table
import Testbed.Settings

/-!
# Endpoints of the settings

The table of endpoints in a text of settings is read in its order, whatever the other settings are,
and a key is the template of the first entry that it names in any letter case.
-/

namespace Testbed.Settings

open Toml Toml.Reader

section Fields

variable {es es' : List (String × Toml)}

theorem fieldOr_table {α : Type} (read : Toml → Option α) (otherwise : α) (name : String)
    (position : ℕ) :
    fieldOr read otherwise name position (.table es) =
      (find? name es).elim (some otherwise) read := by
  rw [fieldOr, field?, Option.bind_eq_bind, Option.bind_some]
  cases find? name es <;> rfl

theorem endpoints?_strings (pairs : List (String × String)) :
    endpoints? (.table (pairs.map fun p => (p.1, .string p.2))) = some pairs := by
  rw [endpoints?, List.mapM_map]
  induction pairs with
  | nil => rfl
  | cons p pairs ih =>
    rw [List.mapM_cons, ih]
    rfl

/-- The table of endpoints is one field of the settings of the backend. -/
theorem readApi_beside {pairs : List (String × String)} {api : ApiSettings}
    (hsame : ∀ k ≠ "endpoints", find? k es' = find? k es)
    (hadded : find? "endpoints" es' = some (.table (pairs.map fun p => (p.1, .string p.2))))
    (h : readApi (.table es) = some api) :
    readApi (.table es') = some { api with endpoints := pairs } := by
  simp only [readApi, fieldOr_table, Option.bind_eq_bind, Option.pure_def] at h ⊢
  obtain ⟨base, hbase, h⟩ := Option.bind_eq_some_iff.mp h
  obtain ⟨key, hkey, h⟩ := Option.bind_eq_some_iff.mp h
  obtain ⟨timeout, htimeout, h⟩ := Option.bind_eq_some_iff.mp h
  obtain ⟨endpoints, -, h⟩ := Option.bind_eq_some_iff.mp h
  cases h
  rw [hsame _ (by decide), hsame _ (by decide), hsame _ (by decide), hbase, hkey, htimeout, hadded]
  simp only [Option.bind_some, Option.elim_some, endpoints?_strings]

end Fields

section Documents

variable {pairs : List (String × String)} {settings : Settings}

/-- The table of a header `[api.endpoints]` with the entries in it. -/
def endpointsItem (pairs : List (String × String)) : Item :=
  .table false false (pairs.map fun p => (p.1, .value (.string p.2)))

theorem toToml_endpointsItem :
    (endpointsItem pairs).toToml = .table (pairs.map fun p => (p.1, .string p.2)) := by
  have hvalues := entriesToToml_values (pairs.map fun p => (p.1, Toml.string p.2))
  rw [List.map_map] at hvalues
  exact congrArg Toml.table hvalues

theorem ofToml_beside {root root' : Entries}
    (hroot : AddsBelow "api" "endpoints" (some (endpointsItem pairs)) root root')
    (h : ofToml (.table (entriesToToml root)) = some settings) :
    ofToml (.table (entriesToToml root')) =
      some { settings with api := { settings.api with endpoints := pairs } } := by
  simp only [ofToml, fieldOr_table, find?_entriesToToml, Option.bind_eq_bind, Option.pure_def]
    at h ⊢
  obtain ⟨api, hapi, h⟩ := Option.bind_eq_some_iff.mp h
  obtain ⟨run, hrun, h⟩ := Option.bind_eq_some_iff.mp h
  cases h
  rw [hroot.same "execution" (by decide), hrun]
  obtain ⟨-, hbelow⟩ := hroot
  generalize find? "api" root = old, find? "api" root' = new at hapi hbelow
  suffices hread : (new.map Item.toToml).elim (some {}) readApi =
      some { api with endpoints := pairs } by
    rw [hread]
    rfl
  cases hbelow with
  | alone =>
    cases hapi
    have husual : readApi (.table []) = some {} := rfl
    refine readApi_beside (fun k hk => ?_) ?_ husual
    · rw [entriesToToml, entriesToToml, find?_cons, if_neg (Ne.symm hk)]
    · rw [entriesToToml, find?_cons, if_pos rfl, toToml_endpointsItem]
  | table isImplicit isDotted hadds =>
    refine readApi_beside (fun k hk => ?_) ?_ hapi
    · rw [find?_entriesToToml, find?_entriesToToml, hadds.same k hk]
    · rw [find?_entriesToToml, hadds.added, Option.map_some, toToml_endpointsItem]

/-- Without parameters a key of the table stands for its template, and any other for itself. -/
theorem resolve_of_resolver {resolver : Resolver} (hne : settings.api.endpoints ≠ [])
    (h : settings.resolver = .ok resolver) (key : String) :
    resolver.resolve key [] =
      ((settings.api.endpoints.find? (Text.lower ·.1 = Text.lower key)).map Prod.snd).getD key := by
  rw [Settings.resolver, Resolver.ofBase] at h
  obtain ⟨base, -, rfl⟩ := exists_of_map_ok h
  rw [Resolver.resolve, EndpointTable.template?_ofDefinitions _ hne, Template.fillAll,
    List.foldl_nil, String.ofList_toList]

/-- The first entry that a key names in any letter case decides what it stands for. The entries are
spelled in whatever way between the header of their table and the next header, and the other
statements are settings of their own that say nothing below the key of the table. -/
theorem endpoints_in_order {text : String} {ss ss' : List Statement} {s r tail : List Char}
    {others : Settings} (hne : pairs ≠ []) (hnodup : (pairs.map Prod.fst).Nodup)
    (hbefore : Reads (withoutMark text.toList) (ss ++ [.header ["api", "endpoints"]]) s)
    (hentries : EntryLines pairs s r)
    (hafter : Reads r ss' tail) (hhead : ∀ st ∈ ss'.head?, st.IsHeader) (htail : IsBlank tail)
    (hoff : KeepOff "api" "endpoints" [] (ss ++ ss'))
    (hothers : (ofStatements (ss ++ ss')).bind (fun es => ofToml (.table es)) = some others) :
    ∃ settings, ofText text = .ok settings ∧
      settings = { others with api := { others.api with endpoints := pairs } } ∧
      ∀ resolver, settings.resolver = .ok resolver → ∀ key, resolver.resolve key [] =
        ((pairs.find? (Text.lower ·.1 = Text.lower key)).map Prod.snd).getD key := by
  obtain ⟨es, hes, hothers⟩ := Option.bind_eq_some_iff.mp hothers
  have hnodup' : ((pairs.map fun p => (p.1, Toml.string p.2)).map Prod.fst).Nodup := by
    rw [List.map_map]
    exact hnodup
  obtain ⟨root, root', rfl, hdocument, hroot⟩ := ofStatements_beside hoff hhead hnodup' hes
  rw [List.map_map] at hdocument hroot
  have htext : Toml.ofText text = some (entriesToToml root') := by
    refine ofText_eq_some_iff.mpr ⟨_, tail, ?_, htail, hdocument⟩
    have hreads := (hbefore.append hentries.reads).append hafter
    simpa only [List.append_assoc, List.singleton_append, Function.comp_def] using hreads
  refine ⟨_, ?_, rfl, fun resolver h => resolve_of_resolver hne h⟩
  rw [Settings.ofText, htext, Option.bind_some, ofToml_beside hroot hothers]

/-- Names that differ in letter case only, between other settings; no built-in endpoint is left. -/
theorem endpoints_in_order_spelled : ∃ settings resolver,
    ofText ("[api]\n\"api_key\" = \"k\"\n" ++
      "[api.endpoints]\n\"Login\" = \"in\"\n\"LOGIN\" =\"\\u0061\" #2\n\n" ++
      "[execution]\n\"default_script_kind\" = \"selenium\"\n") = .ok settings ∧
    settings = ⟨{ apiKey := some "k", endpoints := [("Login", "in"), ("LOGIN", "a")] },
      { scriptKind := .selenium }⟩ ∧
    settings.resolver = .ok resolver ∧ resolver.resolve "LOGIN" [] = "in" ∧
    resolver.resolve "TestPlan" [] = "TestPlan" := by
  have hapi (r : List Char) : Reads ("[api]\n".toList ++ r) [.header ["api"]] r := by
    simp only [String.reduceToList]
    exact reads_header rfl rfl rfl
  have hendpoints (r : List Char) :
      Reads ("[api.endpoints]\n".toList ++ r) [.header ["api", "endpoints"]] r := by
    simp only [String.reduceToList]
    exact reads_header rfl rfl rfl
  have hexecution (r : List Char) :
      Reads ("\n[execution]\n".toList ++ r) [.header ["execution"]] r := by
    simp only [String.reduceToList]
    exact reads_header rfl rfl rfl
  have hescaped : BasicText "a".toList "\\u0061".toList := .short rfl .nil
  have hsecond (r : List Char) : EntryLine ("LOGIN", "a")
      ('"' :: ("LOGIN".toList ++ ['"']) ++ ([' '] ++ '=' :: ([] ++ '"' ::
        ("\\u0061".toList ++ '"' :: ' ' :: '#' :: '2' :: '\n' :: r)))) r :=
    .mk (.basic (basicText_self (by decide))) (List.forall_mem_singleton.mpr rfl)
      (List.forall_mem_nil _) hescaped rfl
  have hkey (r : List Char) := entryLine_plain (p := ("api_key", "k")) (by decide) (by decide) r
  have hfirst (r : List Char) := entryLine_plain (p := ("Login", "in")) (by decide) (by decide) r
  have hkind :=
    entryLine_plain (p := ("default_script_kind", "selenium")) (by decide) (by decide) []
  have hbefore (r : List Char) :=
    ((hapi _).append (EntryLines.cons (hkey _) (.done _)).reads).append (hendpoints r)
  have hpairs (r : List Char) := EntryLines.cons (hfirst _) (.cons (hsecond r) (.done r))
  have hafter := (hexecution _).append (EntryLines.cons hkind (.done _)).reads
  obtain ⟨_, hsettings, rfl, hresolve⟩ := @endpoints_in_order _
    ("[api]\n\"api_key\" = \"k\"\n" ++
      "[api.endpoints]\n\"Login\" = \"in\"\n\"LOGIN\" =\"\\u0061\" #2\n\n" ++
      "[execution]\n\"default_script_kind\" = \"selenium\"\n")
    [.header ["api"], .assign ["api_key"] (.string "k")] _ _ _ _
    ⟨{ apiKey := some "k" }, { scriptKind := .selenium }⟩ (by decide) (by decide)
    (by convert hbefore _ using 1; exacts [by decide +kernel, rfl]) (hpairs _) hafter (by decide)
    rfl (by decide) (by decide +kernel)
  have hresolver : (Resolver.ofBase (.ofDefinitions [("Login", "in"), ("LOGIN", "a")])
      ({} : ApiSettings).baseAddress).toOption.map (fun _ => ()) = some () := by decide +kernel
  obtain ⟨resolver, hresolver, -⟩ := exists_ok_of_toOption hresolver
  refine ⟨_, resolver, hsettings, rfl, hresolver, ?_, ?_⟩
  · rw [hresolve resolver hresolver]
    decide +kernel
  · rw [hresolve resolver hresolver]
    decide +kernel

end Documents

end Testbed.Settings
