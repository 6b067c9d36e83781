import Mathlib.Data.List.Infix
import Testbed.Endpoint
import Testbed.Proofs.Gives
import Testbed.Proofs.Text.Lines

/-!
# Base addresses

What is known of a base address that has been read from a text without query and fragment: it is
one of the web with a host, its path ends with a slash, and its port is not the usual one.
-/

namespace Testbed

theorem text_segments_append (ss ts : List String) :
    (Path.segments (ss ++ ts)).text = (Path.segments ss).text ++ (Path.segments ts).text := by
  simp [Path.text, String.join_append]

@[simp] theorem text_segments_nil : (Path.segments []).text = "" := rfl

@[simp] theorem text_segments_cons (s : String) (ss : List String) :
    (Path.segments (s :: ss)).text = "/" ++ s ++ (Path.segments ss).text := by
  simp [Path.text, String.join_cons]

namespace Address

open Text (cut splitWhere)

/-- An address of the web whose path ends with a slash and is all that follows the host. -/
structure IsBase (a : Address) : Prop where
  web : Resolver.isWebScheme a.scheme = true
  path : ∃ ss, a.path = .segments (ss ++ [""])
  host : a.hasHost = true
  port : a.port = keptPort a.scheme a.port
  query : a.query = none
  fragment : a.fragment = none

def SlashEnded (s : List Char) : Prop := ∀ c ∈ s.getLast?, c = '/'

section Slashes

variable {s t : List Char}

theorem SlashEnded.of_suffix (h : SlashEnded s) (ht : t <:+ s) : SlashEnded t := by
  obtain ⟨u, rfl⟩ := ht
  intro c hc
  refine h c ?_
  rw [List.getLast?_append, hc]
  rfl

theorem slashEnded_cons {c : Char} (h : SlashEnded (c :: s)) : SlashEnded s :=
  h.of_suffix (List.suffix_cons c s)

theorem slashEnded_dropWhile (h : SlashEnded s) (p : Char → Bool) : SlashEnded (s.dropWhile p) :=
  h.of_suffix (List.dropWhile_suffix p)

/-- The last piece of such a text is empty. -/
theorem exists_pieces (h : SlashEnded s) (special : Bool) :
    ∃ ps, pieces special s = ps ++ [[]] := by
  rcases List.eq_nil_or_concat s with rfl | ⟨t, c, rfl⟩
  · exact ⟨[], rfl⟩
  · obtain rfl : c = '/' := h c (by simp)
    refine ⟨cut '/' (t.map fun c => if isSlash special c then '/' else c), ?_⟩
    rw [pieces, List.concat_eq_append, List.map_append, List.map_singleton, ite_self]
    exact Text.cut_append_sep '/' _ []

theorem addPieces_empty (before : List String) : addPieces false before [[]] = before ++ [""] := rfl

theorem exists_addPieces (before : List String) (ps : List (List Char)) :
    ∃ ss, addPieces false before (ps ++ [[]]) = ss ++ [""] := by
  induction ps generalizing before with
  | nil => exact ⟨before, rfl⟩
  | cons p ps ih =>
    have hne : (ps ++ [[]] : List (List Char)).isEmpty = false := by cases ps <;> rfl
    simp only [List.cons_append, addPieces, hne, Bool.false_eq_true, if_false]
    split_ifs
    · exact ih _
    · exact ih _
    · exact ih _

theorem exists_readPath (h : SlashEnded s) (special : Bool) (before : List String) :
    ∃ ss, readPath special before s = ss ++ [""] := by
  obtain ⟨ps, hps⟩ := exists_pieces h special
  rw [readPath, hps]
  exact exists_addPieces before ps

end Slashes

section Authorities

theorem gives_readIpv4 (s : List Char) : Gives (Host.readIpv4 s) (· ≠ .name "") := by
  simp only [Host.readIpv4]
  split
  · exact gives_error _
  · refine gives_ite (gives_error _) ?_
    split
    · exact gives_error _
    · exact gives_pure (by simp)

theorem gives_readIpv6 (s : List Char) : Gives (Host.readIpv6 s) (· ≠ .name "") := by
  simp only [Host.readIpv6]
  split
  · exact gives_pure (by simp)
  · exact gives_error _

/-- No host that is read is without a name. -/
theorem gives_readHost (s : List Char) : Gives (Host.read s) (· ≠ .name "") := by
  rw [Host.read]
  split
  · next r hr =>
    unfold Host.bracketed? at hr
    split at hr
    · obtain rfl := Option.some.inj hr
      exact gives_ite (gives_readIpv6 _) (gives_error _)
    · cases hr
  · split
    · exact gives_error _
    · split
      · exact gives_error _
      · exact gives_error _
      · next ascii hne _ =>
        refine gives_ite (gives_readIpv4 _) (gives_pure ?_)
        intro hname
        have hempty : String.ofList ascii = String.ofList [] := Host.name.inj hname
        exact hne (String.ofList_injective hempty)

theorem gives_readPort (s : List Char) : Gives (readPort true s) (·.2 = []) := by
  simp only [readPort]
  cases (splitWhere (!Char.isDigit ·) s).2 with
  | nil => exact gives_ite (gives_error _) (gives_pure rfl)
  | cons c r => exact gives_error _

theorem splitHost_port (inside : Bool) (s : List Char) :
    (splitHost inside s).2 = [] ∨ ∃ r, (splitHost inside s).2 = ':' :: r := by
  induction s generalizing inside with
  | nil => exact .inl rfl
  | cons c s ih =>
    rw [splitHost]
    split_ifs with hcolon
    · exact .inr ⟨s, by rw [hcolon.1]⟩
    all_goals exact ih _

theorem keptPort_keptPort (scheme : String) (port : Option ℕ) :
    keptPort scheme (keptPort scheme port) = keptPort scheme port := by
  unfold keptPort
  split_ifs <;> simp_all

theorem hasHost_of_ne {a : Address} {h : Host} (ha : a.host = some h) (hh : h ≠ .name "") :
    a.hasHost = true := by
  rw [hasHost, ha]
  cases h with
  | name s => simpa using hh
  | ipv4 | ipv6 => rfl

variable {scheme : String} (hspecial : isSpecialScheme scheme = true)
include hspecial

theorem gives_readAuthority (ended : Bool) (s : List Char) :
    Gives (readAuthority scheme ended s) fun a =>
      a.rest = [] ∧ a.host ≠ .name "" ∧ ∃ p, a.port = keptPort scheme p := by
  simp only [readAuthority, hspecial, if_true]
  refine gives_ite (gives_throw _ _) (gives_ite (gives_throw _ _) ?_)
  refine gives_bind (gives_readHost _) fun host hhost => ?_
  rcases splitHost_port false ((splitCredentials s).getD ([], s)).2 with hport | ⟨r, hport⟩
  · rw [hport]
    exact gives_pure ⟨rfl, hhost, none, rfl⟩
  · rw [hport]
    exact gives_bind (gives_readPort r) fun p hp => gives_pure ⟨hp, hhost, p.1, rfl⟩

theorem gives_readAfterSlashes {t : Tail} (hquery : t.query = none) (hfragment : t.fragment = none)
    {s : List Char} (hs : SlashEnded s) :
    Gives (readAfterSlashes scheme t s) fun a =>
      a.scheme = scheme ∧ (∃ ss, a.path = .segments (ss ++ [""])) ∧ a.hasHost = true ∧
        a.port = keptPort scheme a.port ∧ a.query = none ∧ a.fragment = none := by
  simp only [readAfterSlashes, hspecial, if_true]
  refine gives_bind (gives_readAuthority hspecial _ _) ?_
  rintro a ⟨hrest, hhost, p, hport⟩
  have hpath : SlashEnded (splitWhere (isSlash true) s).2 := slashEnded_dropWhile hs _
  rw [hrest, List.nil_append]
  refine gives_pure ⟨rfl, ?_, hasHost_of_ne rfl hhost, ?_, ?_, ?_⟩
  · cases hp : (splitWhere (isSlash true) s).2 with
    | nil => exact ⟨[], rfl⟩
    | cons c r =>
      rw [hp] at hpath
      have hbelow : SlashEnded (if isSlash true c then r else c :: r) := by
        split_ifs
        · exact slashEnded_cons hpath
        · exact hpath
      obtain ⟨ss, hss⟩ := exists_readPath hbelow true []
      exact ⟨ss, congrArg Path.segments hss⟩
  · simp only [hport, keptPort_keptPort]
  · simp [Tail.queryText, hquery]
  · simp [Tail.fragmentText, hfragment]

end Authorities

section Schemes

variable (scheme : String) (t : Tail)

theorem gives_scheme_readAfterSlashes (s : List Char) :
    Gives (readAfterSlashes scheme t s) (·.scheme = scheme) := by
  simp only [readAfterSlashes]
  exact gives_after fun _ => gives_pure rfl

theorem gives_scheme_readFile : Gives (readFile t) (·.scheme = "file") := by
  simp only [readFile]
  split
  · refine gives_ite (gives_ite (gives_pure rfl) ?_) (gives_pure rfl)
    exact gives_after fun _ => gives_ite (gives_pure rfl) (gives_pure rfl)
  · exact gives_pure rfl
  · exact gives_pure rfl

theorem gives_scheme_readOther : Gives (readOther scheme t) (·.scheme = scheme) := by
  simp only [readOther]
  split
  · exact gives_scheme_readAfterSlashes scheme t _
  · exact gives_pure rfl
  · exact gives_pure rfl

end Schemes

theorem isSpecialScheme_of_web {scheme : String} (h : Resolver.isWebScheme scheme = true) :
    isSpecialScheme scheme = true ∧ scheme ≠ "file" := by
  have hall : ∀ s ∈ ["http", "https", "ws", "wss"], isSpecialScheme s = true ∧ s ≠ "file" := by
    decide
  exact hall scheme (by simpa [Resolver.isWebScheme] using h)

/-- The streams of a server are on the port on which its other addresses are. -/
theorem defaultPort_streamScheme {scheme : String} (h : Resolver.isWebScheme scheme = true) :
    defaultPort (Resolver.streamScheme scheme) = defaultPort scheme := by
  have hall : ∀ s ∈ ["http", "https", "ws", "wss"],
      defaultPort (Resolver.streamScheme s) = defaultPort s := by decide
  exact hall scheme (by simpa [Resolver.isWebScheme] using h)

theorem isSpecialScheme_streamScheme (scheme : String) :
    isSpecialScheme (Resolver.streamScheme scheme) = true := by
  rw [Resolver.streamScheme]
  by_cases hsecure : scheme = "https" ∨ scheme = "wss"
  · rw [if_pos hsecure]
    decide
  · rw [if_neg hsecure]
    decide

section Texts

def IsPlain (s : List Char) : Prop := '?' ∉ s ∧ '#' ∉ s

theorem splitTail_plain {s : List Char} (h : IsPlain s) : splitTail s = ⟨s, none, none⟩ := by
  rw [splitTail, Text.splitOnce_of_not_mem h.2]
  simp only [Text.splitOnce_of_not_mem h.1]

theorem gives_readAfterScheme (scheme : String) {r : List Char} (hr : SlashEnded r)
    (hplain : IsPlain r) :
    Gives (readAfterScheme scheme r) fun a => Resolver.isWebScheme a.scheme = true → a.IsBase := by
  simp only [readAfterScheme, splitTail_plain hplain]
  refine gives_ite ?_ ?_
  · refine (gives_scheme_readFile _).mono fun a ha hweb => ?_
    exact absurd ha (isSpecialScheme_of_web hweb).2
  by_cases hspecial : isSpecialScheme scheme = true
  · rw [if_pos hspecial]
    refine (gives_readAfterSlashes hspecial rfl rfl (slashEnded_dropWhile hr _)).mono ?_
    rintro a ⟨rfl, hpath, hhost, hport, hquery, hfragment⟩ hweb
    exact ⟨hweb, hpath, hhost, hport, hquery, hfragment⟩
  · rw [if_neg hspecial]
    refine (gives_scheme_readOther scheme _).mono fun a ha hweb => ?_
    exact absurd (ha ▸ (isSpecialScheme_of_web hweb).1) hspecial

/-- What counts of a text does so, up to the blanks at its end, if a slash stands behind it. -/
theorem significant_slash (s : List Char) : significant (s ++ ['/']) =
    (s.dropWhile fun c : Char => c.toNat ≤ 0x20).filter
      (fun c => c ≠ '\t' && c ≠ '\n' && c ≠ '\r') ++ ['/'] := by
  have hdrop : (s ++ ['/']).dropWhile (fun c : Char => c.toNat ≤ 0x20) =
      s.dropWhile (fun c : Char => c.toNat ≤ 0x20) ++ ['/'] := by
    rw [List.dropWhile_append]
    split_ifs with hempty
    · rw [List.isEmpty_iff.mp hempty]
      rfl
    · rfl
  have hkept : ((s.dropWhile (fun c : Char => c.toNat ≤ 0x20) ++ ['/']).reverse.dropWhile
      (fun c : Char => c.toNat ≤ 0x20)).reverse =
        s.dropWhile (fun c : Char => c.toNat ≤ 0x20) ++ ['/'] := by
    simp
  simp only [significant, hdrop, hkept, List.filter_append]
  rfl

theorem exists_significant (s : List Char) :
    ∃ t, significant (s ++ ['/']) = t ++ ['/'] ∧ t ⊆ s :=
  ⟨_, significant_slash s, List.Subset.trans List.filter_sublist.subset
    (List.dropWhile_suffix _).subset⟩

theorem splitScheme_suffix {s r : List Char} {scheme : String}
    (h : splitScheme s = some (scheme, r)) : r <:+ s := by
  cases s with
  | nil => cases h
  | cons c s =>
    simp only [splitScheme] at h
    split_ifs at h
    have hsuffix : (splitWhere (!isSchemeChar ·) (c :: s)).2 <:+ c :: s := List.dropWhile_suffix _
    split at h
    · next name r' hsplit =>
      obtain ⟨-, rfl⟩ := Prod.mk.inj (Option.some.inj h)
      rw [hsplit] at hsuffix
      exact (List.suffix_cons _ _).trans hsuffix
    · cases h

/-- An address of the web that is read from a plain text with a slash at its end is a base. -/
theorem isBase_of_ofText {s : String} {t : List Char} (hs : s.toList = t ++ ['/'])
    (hplain : IsPlain t) {a : Address} (h : Address.ofText s = .ok a)
    (hweb : Resolver.isWebScheme a.scheme = true) : a.IsBase := by
  obtain ⟨u, hu, husub⟩ := exists_significant t
  rw [Address.ofText, hs, hu] at h
  have hended : SlashEnded (u ++ ['/']) := by simp [SlashEnded]
  have hplain' : IsPlain (u ++ ['/']) := by
    simp only [IsPlain, List.mem_append, List.mem_singleton, not_or]
    exact ⟨⟨fun hm => hplain.1 (husub hm), by decide⟩, ⟨fun hm => hplain.2 (husub hm), by decide⟩⟩
  cases hsplit : splitScheme (u ++ ['/']) with
  | none => simp [hsplit] at h
  | some found =>
    obtain ⟨scheme, r⟩ := found
    simp only [hsplit] at h
    have hr := splitScheme_suffix hsplit
    have hplain'' : IsPlain r :=
      ⟨fun hm => hplain'.1 (hr.subset hm), fun hm => hplain'.2 (hr.subset hm)⟩
    exact gives_readAfterScheme scheme (hended.of_suffix hr) hplain'' a h hweb

end Texts

end Address

theorem Resolver.exists_of_ofBase {table : EndpointTable} {base : String} {r : Resolver}
    (h : Resolver.ofBase table base = .ok r) : ∃ a, readBase base = .ok a ∧ r = ⟨table, a⟩ := by
  rw [Resolver.ofBase] at h
  cases ha : readBase base with
  | error p =>
    rw [ha] at h
    cases h
  | ok a =>
    rw [ha] at h
    exact ⟨a, rfl, (Except.ok.inj h).symm⟩

open Address in
theorem Resolver.isBase_of_ofBase {table : EndpointTable} {base : String} {r : Resolver}
    (h : Resolver.ofBase table base = .ok r) (hplain : IsPlain base.toList) : r.base.IsBase := by
  obtain ⟨a, ha, rfl⟩ := Resolver.exists_of_ofBase h
  obtain ⟨t, hwhole, hsub⟩ : ∃ t, (if base.toList.getLast? = some '/' then base
      else base ++ "/").toList = t ++ ['/'] ∧ t ⊆ base.toList := by
    split_ifs with hlast
    · obtain ⟨t, ht⟩ := List.getLast?_eq_some_iff.mp hlast
      exact ⟨t, ht, ht ▸ List.subset_append_left t _⟩
    · exact ⟨base.toList, by simp, List.Subset.refl _⟩
  have hplain' : IsPlain t := ⟨fun hm => hplain.1 (hsub hm), fun hm => hplain.2 (hsub hm)⟩
  simp only [readBase] at ha
  split at ha
  · cases ha
  · next a' ha' =>
    split_ifs at ha with hweb
    obtain rfl := Except.ok.inj ha
    exact isBase_of_ofText hwhole hplain' ha' hweb

end Testbed
