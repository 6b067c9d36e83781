import Testbed.Proofs.Endpoint.Substitution
import Testbed.Proofs.Endpoint.Table
import Testbed.Proofs.Endpoint.Relative

/-!
# Streaming addresses

The stream of an endpoint is where its address is, under a scheme for streams that is secure if the
scheme of the address is. An address of the web always has a stream, since it has a host, and one
whose scheme is not special never has one. The built-in templates are read below every base,
whatever the parameters are: a value brings no colon, so no template becomes an address of its own.
-/

namespace Testbed

open Address (IsData defaultPort isSpecialScheme keptPort readAfterScheme readAfterSlashes
  readRelative significant splitScheme splitTail)
open Resolver (isWebScheme streamScheme)

namespace Address

section Hosts

def WebHosted (a : Address) : Prop := isWebScheme a.scheme = true → a.hasHost = true

theorem gives_webHosted_of_scheme {scheme : String} {x : Except Flaw Address}
    (h : Gives x (·.scheme = scheme)) (hno : ¬isWebScheme scheme = true) : Gives x WebHosted := by
  intro a ha hweb
  rw [h a ha] at hweb
  exact absurd hweb hno

variable (scheme : String)

theorem gives_webHosted_readAfterSlashes (t : Tail) (s : List Char) :
    Gives (readAfterSlashes scheme t s) WebHosted := by
  by_cases hspecial : isSpecialScheme scheme = true
  · simp only [readAfterSlashes]
    refine gives_bind (gives_readAuthority hspecial _ _) ?_
    rintro a ⟨-, hhost, -⟩
    exact gives_pure fun _ => hasHost_of_ne rfl hhost
  · apply gives_webHosted_of_scheme (gives_scheme_readAfterSlashes scheme t s)
    exact fun hweb => hspecial (isSpecialScheme_of_web hweb).1

theorem gives_webHosted_readAfterScheme (r : List Char) :
    Gives (readAfterScheme scheme r) WebHosted := by
  simp only [readAfterScheme]
  by_cases hfile : scheme = "file"
  · rw [if_pos hfile]
    exact gives_webHosted_of_scheme (gives_scheme_readFile _) (by decide)
  · rw [if_neg hfile]
    by_cases hspecial : isSpecialScheme scheme = true
    · rw [if_pos hspecial]
      exact gives_webHosted_readAfterSlashes scheme _ _
    · rw [if_neg hspecial]
      apply gives_webHosted_of_scheme (gives_scheme_readOther scheme _)
      exact fun hweb => hspecial (isSpecialScheme_of_web hweb).1

theorem gives_webHosted_ofText (s : String) : Gives (ofText s) WebHosted := by
  rw [ofText]
  cases splitScheme (significant s.toList) with
  | none => exact gives_error _
  | some found => exact gives_webHosted_readAfterScheme found.1 found.2

variable {base : Address}

theorem gives_webHosted_readRelative (hbase : base.WebHosted) (s : List Char) :
    Gives (readRelative base s) WebHosted := by
  simp only [readRelative]
  cases (splitTail s).body with
  | nil => exact gives_pure hbase
  | cons c r =>
    by_cases hslash : isSlash base.isSpecial c = true
    · simp only [hslash, if_true]
      cases r with
      | nil => exact gives_pure hbase
      | cons d r =>
        apply gives_ite
        · exact gives_webHosted_readAfterSlashes base.scheme _ _
        · exact gives_pure hbase
    · simp only [if_neg hslash]
      exact gives_pure hbase

/-- Reading against a base keeps the host of the base or reads another one. -/
theorem gives_webHosted_join (hbase : base.WebHosted) (s : String) :
    Gives (base.join s) WebHosted := by
  simp only [join]
  split
  · apply gives_ite
    · exact gives_webHosted_readRelative hbase _
    · exact gives_webHosted_readAfterScheme _ _
  · split
    · exact gives_webHosted_readRelative hbase _
    · exact gives_error _
    · exact gives_webHosted_readRelative hbase _

end Hosts

section Relative

variable {base : Address} {c : Char} {r : List Char}

/-- Text that begins with data still does when the blanks at its end are gone. -/
theorem exists_significant_cons (hc : IsData c) (r : List Char) :
    ∃ r', significant (c :: r) = c :: r' ∧ r' ⊆ r := by
  have hkeep : ¬c.toNat ≤ 0x20 := Nat.not_le.mpr hc.plain.2.1
  have hfront : (c :: r).dropWhile (fun c : Char => c.toNat ≤ 0x20) = c :: r := by
    rw [List.dropWhile_cons_of_neg (by simpa using hkeep)]
  obtain ⟨u, hu, hsub⟩ : ∃ u,
      ((c :: r).reverse.dropWhile (fun c : Char => c.toNat ≤ 0x20)).reverse = c :: u ∧ u ⊆ r := by
    rw [List.reverse_cons, List.dropWhile_append]
    by_cases hblank : (r.reverse.dropWhile (fun c : Char => c.toNat ≤ 0x20)).isEmpty = true
    · rw [if_pos hblank, List.dropWhile_cons_of_neg (by simpa using hkeep)]
      exact ⟨[], rfl, List.nil_subset r⟩
    · rw [if_neg hblank, List.reverse_append]
      refine ⟨_, rfl, ?_⟩
      intro d hd
      exact List.mem_reverse.mp ((List.dropWhile_sublist _).subset (List.mem_reverse.mp hd))
  have hkept : (c ≠ '\t' && c ≠ '\n' && c ≠ '\r') = true := by
    simp only [Bool.and_eq_true, decide_eq_true_eq]
    refine ⟨⟨?_, ?_⟩, ?_⟩ <;>
      · rintro rfl
        exact hkeep (by decide)
  refine ⟨u.filter fun c => c ≠ '\t' && c ≠ '\n' && c ≠ '\r', ?_, ?_⟩
  · simp only [significant]
    rw [hfront, hu]
    exact List.filter_cons_of_pos hkept
  · exact List.Subset.trans List.filter_sublist.subset hsub

theorem exists_body_splitTail (hc : IsData c) (r : List Char) :
    ∃ r', (splitTail (c :: r)).body = c :: r' := by
  have hcut {d : Char} (hd : c ≠ d) (s : List Char) : Text.splitOnce d (c :: s) =
      (Text.splitOnce d s).map fun p => (c :: p.1, p.2) := by
    rw [Text.splitOnce, if_neg hd]
  rw [splitTail, hcut hc.ne.2.2.2.1]
  cases Text.splitOnce '#' r with
  | none =>
    simp only [Option.map_none, hcut hc.ne.2.2.1]
    cases Text.splitOnce '?' r with
    | none => exact ⟨_, rfl⟩
    | some q => exact ⟨_, rfl⟩
  | some p =>
    simp only [Option.map_some, hcut hc.ne.2.2.1]
    cases Text.splitOnce '?' p.1 with
    | none => exact ⟨_, rfl⟩
    | some q => exact ⟨_, rfl⟩

/-- A text that begins with data and has no colon is read below a base with a path. -/
theorem exists_join_of_data {ss : List String} (hpath : base.path = .segments ss) {s : String}
    (hs : s.toList = c :: r) (hc : IsData c) (hcolon : ':' ∉ s.toList) :
    ∃ a, base.join s = .ok a ∧ SameSite a base := by
  obtain ⟨u, hu, hsub⟩ := exists_significant_cons hc r
  have hscheme : splitScheme (c :: u) = none := by
    apply splitScheme_of_not_mem
    intro hmem
    exact hcolon (hs ▸ List.cons_subset_cons c hsub hmem)
  obtain ⟨b, hb⟩ := exists_body_splitTail hc u
  rw [join, hs, hu]
  simp only [hscheme, hpath, readRelative, hb, hc.isSlash_eq, Bool.false_eq_true, if_false]
  exact ⟨_, rfl, rfl, rfl, rfl, rfl, rfl⟩

end Relative

section Streams

def effectivePort (a : Address) : Option ℕ := a.port.or (defaultPort a.scheme)

structure IsStreamOf (b a : Address) : Prop where
  scheme : b.scheme = if a.scheme = "https" ∨ a.scheme = "wss" then "wss" else "ws"
  username : b.username = a.username
  password : b.password = a.password
  host : b.host = a.host
  path : b.path = a.path
  query : b.query = a.query
  fragment : b.fragment = a.fragment
  port : isWebScheme a.scheme = true → b.effectivePort = a.effectivePort

variable {a b : Address}

theorem keptPort_or_defaultPort (scheme : String) (port : Option ℕ) :
    (keptPort scheme port).or (defaultPort scheme) = port.or (defaultPort scheme) := by
  rw [keptPort]
  by_cases hdefault : port = defaultPort scheme
  · rw [if_pos hdefault, hdefault, Option.none_or, Option.or_self]
  · rw [if_neg hdefault]

theorem withScheme?_streamScheme_eq_some_iff :
    a.withScheme? (streamScheme a.scheme) = some b ↔ (a.isSpecial = true ∧ a.hasHost = true) ∧
      b = { a with
        scheme := streamScheme a.scheme
        port := keptPort (streamScheme a.scheme) a.port } := by
  rw [withScheme?, isSpecialScheme_streamScheme, Bool.and_true]
  by_cases hstreams : (a.isSpecial && a.hasHost) = true
  · rw [if_pos hstreams, Option.some.injEq, and_iff_right (Bool.and_eq_true_iff.mp hstreams),
      eq_comm]
  · rw [if_neg hstreams]
    exact iff_of_false (by simp) fun h => hstreams (Bool.and_eq_true_iff.mpr h.1)

theorem isStreamOf_of_withScheme? (h : a.withScheme? (streamScheme a.scheme) = some b) :
    b.IsStreamOf a := by
  obtain ⟨-, rfl⟩ := withScheme?_streamScheme_eq_some_iff.mp h
  refine ⟨rfl, rfl, rfl, rfl, rfl, rfl, rfl, ?_⟩
  intro hweb
  simp only [effectivePort]
  rw [keptPort_or_defaultPort, defaultPort_streamScheme hweb]

end Streams

end Address

namespace Template

variable {c : Char} {piece value s : List Char}

theorem mem_replaceFrom {k : ℕ} (h : c ∈ replaceFrom piece value k s) : c ∈ s ∨ c ∈ value := by
  induction s generalizing k with
  | nil => cases k <;> cases h
  | cons d s ih =>
    cases k with
    | succ k => exact (ih h).imp_left (List.mem_cons_of_mem d)
    | zero =>
      rw [replaceFrom] at h
      by_cases hpiece : piece.isPrefixOf (d :: s) = true
      · rw [if_pos hpiece, List.mem_append] at h
        cases h with
        | inl hvalue => exact .inr hvalue
        | inr hrest => exact (ih hrest).imp_left (List.mem_cons_of_mem d)
      · rw [if_neg hpiece] at h
        cases List.mem_cons.mp h with
        | inl hd => exact .inl (hd ▸ List.mem_cons_self)
        | inr hrest => exact (ih hrest).imp_left (List.mem_cons_of_mem d)

/-- Parameters bring data only, and leave what stands before the first brace. -/
theorem exists_foldl_fill (hc : c ≠ '\x7b') (params : List (String × String)) (s : List Char) :
    ∃ s', params.foldl fill (c :: s) = c :: s' ∧ ∀ d ∈ s', d ∈ s ∨ IsData d := by
  induction params generalizing s with
  | nil => exact ⟨s, rfl, fun d hd => .inl hd⟩
  | cons p params ih =>
    have hcopy := fill_copy (s := [c]) (by simpa using Ne.symm hc) s p
    rw [List.singleton_append, List.singleton_append] at hcopy
    obtain ⟨s', hs', hdata⟩ := ih (fill s p)
    refine ⟨s', ?_, ?_⟩
    · rw [List.foldl_cons, hcopy, hs']
    · intro d hd
      cases hdata d hd with
      | inr hvalue => exact .inr hvalue
      | inl hfill => exact (mem_replaceFrom hfill).imp_right isData_of_mem_encodedValue

end Template

namespace Resolver

variable {table : EndpointTable} {base : String} {r : Resolver}

theorem streamAddress_of_error {key : String} {params : List (String × String)} {p : Problem}
    (h : r.httpAddress key params = .error p) : r.streamAddress key params = .error p := by
  rw [streamAddress, h]
  rfl

theorem streamAddress_of_ok {key : String} {params : List (String × String)} {a : Address}
    (h : r.httpAddress key params = .ok a) : r.streamAddress key params =
      match a.withScheme? (streamScheme a.scheme) with
      | some b => .ok b
      | none => .error (.badAddress a.text s!"cannot use scheme {streamScheme a.scheme}") := by
  rw [streamAddress, h]
  rfl

theorem webHosted_base (h : ofBase table base = .ok r) : r.base.WebHosted := by
  obtain ⟨a, ha, rfl⟩ := exists_of_ofBase h
  simp only [readBase] at ha
  split at ha
  · cases ha
  · next a' hread =>
    split_ifs at ha with hweb
    obtain rfl := Except.ok.inj ha
    exact Address.gives_webHosted_ofText _ a' hread

theorem gives_webHosted_httpAddress (h : ofBase table base = .ok r) (key : String)
    (params : List (String × String)) : Gives (r.httpAddress key params) Address.WebHosted := by
  intro a ha
  simp only [httpAddress] at ha
  split at ha
  · next a' hjoin =>
    obtain rfl := Except.ok.inj ha
    exact Address.gives_webHosted_join (webHosted_base h) _ a' hjoin
  · cases ha

theorem builtIn_relative : ∀ p ∈ EndpointTable.builtIn,
    (∃ c ∈ p.2.toList.head?, IsData c) ∧ ':' ∉ p.2.toList := by
  have hcheck : (EndpointTable.builtIn.all fun p =>
      (p.2.toList.head?.any fun c => decide (IsData c)) && !p.2.toList.contains ':') = true := by
    decide +kernel
  intro p hp
  have hp := List.all_eq_true.mp hcheck p hp
  simpa [Option.any_eq_true] using hp

/-- A built-in endpoint has an address on the site of every base, whatever it is filled in with. -/
theorem exists_httpAddress_builtIn (h : ofBase .default base = .ok r) {key : String}
    (hkey : ∃ p ∈ EndpointTable.builtIn, Text.lower p.1 = Text.lower key)
    (params : List (String × String)) :
    ∃ a, r.httpAddress key params = .ok a ∧ Address.SameSite a r.base := by
  obtain ⟨hread, hweb, htable⟩ := ofText_of_ofBase h
  obtain ⟨ss, l, hpath, -⟩ := Address.exists_segments_of_web hread hweb
  obtain ⟨p, hp, htemplate⟩ : ∃ p ∈ EndpointTable.builtIn, r.table.template? key = some p.2 := by
    have hsome : (EndpointTable.builtIn.find? (Text.lower ·.1 = Text.lower key)).isSome := by
      simpa [List.find?_isSome] using hkey
    obtain ⟨p, hp⟩ := Option.isSome_iff_exists.mp hsome
    refine ⟨p, List.mem_of_find?_eq_some hp, ?_⟩
    rw [htable, EndpointTable.default, EndpointTable.template?_ofPairs, hp]
    rfl
  obtain ⟨⟨c, hfirst, hc⟩, hcolon⟩ := builtIn_relative p hp
  obtain ⟨s, hs⟩ := List.head?_eq_some_iff.mp hfirst
  obtain ⟨s', hs', hdata⟩ := Template.exists_foldl_fill hc.ne.2.2.2.2 params s
  have htarget : (r.resolve key params).toList = c :: s' := by
    rw [resolve, htemplate, Template.fillAll, String.toList_ofList, ← hs', ← hs]
    rfl
  have hno : ':' ∉ (r.resolve key params).toList := by
    rw [htarget]
    intro hmem
    have hcolon' : ':' ∉ c :: s := hs ▸ hcolon
    cases List.mem_cons.mp hmem with
    | inl heq => exact hcolon' (heq ▸ List.mem_cons_self)
    | inr hrest =>
      cases hdata ':' hrest with
      | inl htext => exact hcolon' (List.mem_cons_of_mem c htext)
      | inr hvalue => exact absurd hvalue (by decide)
  obtain ⟨a, ha, hsame⟩ := Address.exists_join_of_data hpath htarget hc hno
  refine ⟨a, ?_, hsame⟩
  simp only [httpAddress, ha]

/-- The address of a stream agrees with the address that is read for the same target. It is there
if that one is of the web, and not if there is none or its scheme is not special. It has the scheme
for streams, a secure one for a secure address, and all else as it was. Every built-in endpoint has
both addresses. -/
theorem stream_agrees (h : ofBase table base = .ok r) :
    (∀ key params,
      (∀ p, r.httpAddress key params = .error p →
        r.streamAddress key params = .error p ∧ ∃ target why, p = .badAddress target why) ∧
      (∀ a, r.httpAddress key params = .ok a → isWebScheme a.scheme = true →
        ∃ b, r.streamAddress key params = .ok b) ∧
      (∀ a, r.httpAddress key params = .ok a → a.isSpecial = false →
        r.streamAddress key params = .error (.badAddress a.text "cannot use scheme ws")) ∧
      ∀ b, r.streamAddress key params = .ok b →
        ∃ a, r.httpAddress key params = .ok a ∧ b.IsStreamOf a) ∧
    (table = .default → ∀ key, (∃ p ∈ EndpointTable.builtIn, Text.lower p.1 = Text.lower key) →
      ∀ params, ∃ a b, r.httpAddress key params = .ok a ∧ r.streamAddress key params = .ok b) := by
  have hweb (key : String) (params : List (String × String)) (a : Address)
      (ha : r.httpAddress key params = .ok a) (hscheme : isWebScheme a.scheme = true) :
      ∃ b, r.streamAddress key params = .ok b := by
    have hhost := gives_webHosted_httpAddress h key params a ha hscheme
    have hstream := Address.withScheme?_streamScheme_eq_some_iff.mpr
      ⟨⟨(Address.isSpecialScheme_of_web hscheme).1, hhost⟩, rfl⟩
    rw [streamAddress_of_ok ha, hstream]
    exact ⟨_, rfl⟩
  refine ⟨fun key params => ⟨?_, hweb key params, ?_, ?_⟩, ?_⟩
  · intro p hp
    refine ⟨streamAddress_of_error hp, ?_⟩
    simp only [httpAddress] at hp
    split at hp
    · cases hp
    · obtain rfl := Except.error.inj hp
      exact ⟨_, _, rfl⟩
  · intro a ha hno
    have hscheme : streamScheme a.scheme = "ws" := by
      rw [streamScheme]
      apply if_neg
      rintro (hsecure | hsecure)
      · rw [Address.isSpecial, hsecure] at hno
        exact absurd hno (by decide)
      · rw [Address.isSpecial, hsecure] at hno
        exact absurd hno (by decide)
    have hnone : a.withScheme? (streamScheme a.scheme) = none := by
      rw [Address.withScheme?, hno]
      rfl
    rw [streamAddress_of_ok ha, hnone, hscheme]
    rfl
  · intro b hb
    cases ha : r.httpAddress key params with
    | error p =>
      rw [streamAddress_of_error ha] at hb
      cases hb
    | ok a =>
      rw [streamAddress_of_ok ha] at hb
      cases hstream : a.withScheme? (streamScheme a.scheme) with
      | none =>
        rw [hstream] at hb
        cases hb
      | some b' =>
        rw [hstream] at hb
        obtain rfl := Except.ok.inj hb
        exact ⟨a, rfl, Address.isStreamOf_of_withScheme? hstream⟩
  · rintro rfl key hkey params
    obtain ⟨-, hbase, -⟩ := ofText_of_ofBase h
    obtain ⟨a, ha, hsame⟩ := exists_httpAddress_builtIn h hkey params
    obtain ⟨b, hb⟩ := hweb key params a ha (hsame.scheme ▸ hbase)
    exact ⟨a, b, ha, hb⟩

/-- A secure address stays secure and keeps its port, and a letter box has no stream. -/
theorem stream_agrees_secure : ∃ r a b a',
    ofBase .default "https://u@h:80/api?x" = .ok r ∧
    r.httpAddress "getPROJECTS" [] = .ok a ∧ isWebScheme a.scheme = true ∧
    r.streamAddress "getPROJECTS" [] = .ok b ∧ b.scheme = "wss" ∧ b.username = "u" ∧
    b.effectivePort = some 80 ∧
    r.httpAddress "mailto:x" [] = .ok a' ∧ a'.isSpecial = false ∧
    r.streamAddress "mailto:x" [] = .error (.badAddress "mailto:x" "cannot use scheme ws") := by
  have hread : ((ofBase .default "https://u@h:80/api?x").toOption.map fun r =>
      ((r.httpAddress "getPROJECTS" []).toOption.map fun a =>
        (a.scheme, a.username, a.effectivePort),
      (r.httpAddress "mailto:x" []).toOption.map fun a => (a.isSpecial, a.text))) =
      some (some ("https", "u", some 80), some (false, "mailto:x")) := by decide +kernel
  obtain ⟨r, hr, hread⟩ := exists_ok_of_toOption hread
  obtain ⟨hhttp, hmail⟩ := Prod.mk.inj hread
  obtain ⟨a, ha, hparts⟩ := exists_ok_of_toOption hhttp
  obtain ⟨a', ha', hparts'⟩ := exists_ok_of_toOption hmail
  simp only [Prod.mk.injEq] at hparts hparts'
  obtain ⟨hscheme, hname, hport⟩ := hparts
  obtain ⟨hspecial, htext⟩ := hparts'
  have hweb : isWebScheme a.scheme = true := by
    rw [hscheme]
    decide
  obtain ⟨hall, hbuiltIn⟩ := stream_agrees hr
  obtain ⟨-, b, -, hb⟩ :=
    hbuiltIn rfl "getPROJECTS" ⟨("GetProjects", "my-projects"), by decide +kernel⟩ []
  obtain ⟨a₀, ha₀, hstream⟩ := (hall "getPROJECTS" []).2.2.2 b hb
  obtain rfl : a₀ = a := Except.ok.inj (ha₀.symm.trans ha)
  have hnone := (hall "mailto:x" []).2.2.1 a' ha' hspecial
  rw [htext] at hnone
  refine ⟨r, a₀, b, a', hr, ha, hweb, hb, ?_, ?_, ?_, ha', hspecial, hnone⟩
  · rw [hstream.scheme, hscheme]
    decide
  · rw [hstream.username, hname]
  · rw [hstream.port hweb, hport]

end Resolver

end Testbed
