import Courier.Proofs.Uri.Scheme
import Courier.Proofs.Web.Written

/-!
# Kinds of addresses

An address that is read has a site with a host, a site without one, only a path from the root, or
only a text behind its scheme. When it is written and read as a target, the first kind is an
absolute target on the same site and the next two are none. The last one has no slashes behind its
scheme, so that a target takes the scheme for a part of an authority.
-/

namespace Courier.Web

variable {scheme authority start name t : Text} {ends : Bool} {s : Site} {host : Host}

/-! ## Sites under any scheme -/

theorem Host.isTold_of_parseFree (h : Host.parseFree name = .ok host) : host.IsTold := by
  unfold parseFree at h
  split at h
  · next rest =>
    have hbracketed : Host.parse ('[' :: rest) = .ok host := h
    exact isTold_of_parse hbracketed
  · split at h
    · cases h
    · next hallowed =>
      cases h
      have hnone : ∀ d, (isFreeForbidden d && d != '%' && !isHexDigit d) = true →
          d ∉ percentEncode isControl name := by
        intro d hd hmem
        simp only [Bool.and_eq_true, bne_iff_ne, Bool.not_eq_true'] at hd
        obtain ⟨⟨hforbidden, hpercent⟩, hhex⟩ := hd
        rcases mem_percentEncode hmem with ⟨hmem, -⟩ | hescape | hdigit
        · exact hallowed (List.any_eq_true.2 ⟨d, hmem, hforbidden⟩)
        · exact hpercent hescape
        · rw [hhex] at hdigit
          cases hdigit
      refine ⟨.plain (hnone ':' (by decide)) fun hopen => ?_, fun d hd => hnone d ?_⟩
      · exact hnone '[' (by decide) (List.mem_of_mem_head? hopen)
      · have hall : "/?#@".toList.all
            (fun d => isFreeForbidden d && d != '%' && !isHexDigit d) = true := by
          decide
        exact List.all_eq_true.1 hall d hd

theorem Host.isTold_of_map_parse {host? : Option Host} (h : some <$> Host.parse name = .ok host?) :
    ∀ found ∈ host?, found.IsTold := by
  intro found hfound
  obtain ⟨host, hparse, rfl⟩ := map_eq_ok.1 h
  cases hfound
  exact isTold_of_parse hparse

/-- Under any scheme, an authority that is read names a host or nothing at all. -/
theorem told_of_readSite (h : readSite scheme authority ends = .ok (s, start)) :
    s = {} ∨ ∃ host, s.IsTold host ∧ ∀ n ∈ s.port, n < 65536 := by
  unfold readSite at h
  split at h
  · cases h
  dsimp only at h
  obtain ⟨⟨host?, port, rest⟩, hread, h⟩ := bind_eq_ok.1 h
  unfold readHostAndPort at hread
  dsimp only at hread h
  split at hread
  · split at hread
    · cases hread
    · cases hread
      split at h
      · cases h
      · next hbare =>
        cases h
        left
        simp only [Option.isNone_none, Bool.true_and, Bool.not_eq_true', Bool.not_eq_false,
          Bool.and_eq_true, List.isEmpty_iff, Option.isNone_iff_eq_none] at hbare
        rw [hbare.1, hbare.2]
  · have hnamed : ∀ (readName : Except AddressError Host) (digits : Text),
        (∀ host, readName = .ok host → host.IsTold) →
        (do
          let host ← readName
          .ok (some host, ← readPort scheme digits)) = Except.ok (host?, port, rest) →
        ∃ host, host? = some host ∧ host.IsTold ∧ ∀ n ∈ port, n < 65536 := by
      intro readName digits htold hread
      obtain ⟨host, hhost, hread⟩ := bind_eq_ok.1 hread
      obtain ⟨⟨port', start'⟩, hport, hread⟩ := bind_eq_ok.1 hread
      cases hread
      exact ⟨host, rfl, htold host hhost, fun n hn => (port_of_readPort hport n hn).1⟩
    obtain ⟨host, rfl, htold, hport⟩ : ∃ host, host? = some host ∧ host.IsTold ∧
        ∀ n ∈ port, n < 65536 := by
      split at hread
      · exact hnamed _ _ (fun _ => Host.isTold_of_parse) hread
      · exact hnamed _ _ (fun _ => Host.isTold_of_parseFree) hread
    split at h
    · cases h
    · cases h
      obtain ⟨husername, hpassword⟩ := escaped_of_splitUserinfo authority
      exact .inr ⟨host, ⟨husername, hpassword, rfl, htold⟩, hport⟩

/-! ## Reading addresses -/

namespace Address

variable {a : Address} {r : Reference} {body text : Text} {list : List Text} {u : Uri}

/-- What an address has behind its scheme. -/
inductive Kind (a : Address) : Prop
  | hosted {s : Site} {host : Host} {list : List Text} (site : a.site = some s)
    (path : a.path = .segments list) (told : s.IsTold host) (port : ∀ n ∈ s.port, n < 65536)
  | hostless {list : List Text} (site : a.site = some {}) (path : a.path = .segments list)
  | rooted {list : List Text} (site : a.site = none) (path : a.path = .segments list)
    (nonempty : list ≠ []) (names : ∀ segment ∈ list, '/' ∉ segment)
  | rootless {text : Text} (site : a.site = none) (path : a.path = .rootless text)
    (plain : text.head? ≠ some '/')

/-- Its query says nothing about the kind of an address. -/
theorem Kind.of_parts {b : Address} (h : a.Kind) (hsite : b.site = a.site)
    (hpath : b.path = a.path) : b.Kind := by
  cases h with
  | hosted site path told port => exact .hosted (hsite.trans site) (hpath.trans path) told port
  | hostless site path => exact .hostless (hsite.trans site) (hpath.trans path)
  | rooted site path nonempty names =>
    exact .rooted (hsite.trans site) (hpath.trans path) nonempty names
  | rootless site path plain => exact .rootless (hsite.trans site) (hpath.trans path) plain

theorem exists_readPath (special : Bool) (path : Text) :
    ∃ list, readPath special path = .segments list := by
  unfold readPath
  split
  · exact ⟨_, rfl⟩
  · exact ⟨_, rfl⟩

theorem kind_of_ofAuthority (h : ofAuthority scheme t r = .ok a) : a.Kind := by
  obtain ⟨_, _, site, _, path, hsite, rfl⟩ := exists_of_ofAuthority h
  obtain ⟨list, hpath⟩ := exists_readPath (isSpecial scheme) path
  rcases told_of_readSite hsite with rfl | ⟨host, htold, hport⟩
  · exact .hostless rfl hpath
  · exact .hosted rfl hpath htold hport

theorem kind_of_localHost {host? : Option Host} (hhost : ∀ host ∈ host?, host.IsTold) :
    (withParts scheme (some { host := host? }) (.segments list) r).Kind := by
  cases host? with
  | none => exact .hostless rfl rfl
  | some host =>
    have htold : Site.IsTold { host := some host } host := by
      refine ⟨⟨[], rfl⟩, fun p hp => ?_, rfl, hhost host rfl⟩
      cases hp
    refine .hosted rfl rfl htold fun n hn => ?_
    cases hn

/-- The host `localhost` is none, and neither is one before a drive. -/
theorem kind_of_readLocalHost {readName : Except AddressError (Option Host)} {drive : Bool}
    (htold : ∀ host?, readName = .ok host? → ∀ host ∈ host?, host.IsTold)
    (h : (do
      let host ← readName
      let host := if host == some (.domain "localhost".toList) then none else host
      let host := if drive then none else host
      .ok (withParts fileScheme (some { host }) (.segments list) r)) = Except.ok a) : a.Kind := by
  obtain ⟨host?, hhost, h⟩ := bind_eq_ok.1 h
  cases h
  apply kind_of_localHost
  intro host hmem
  split at hmem
  · cases hmem
  · split at hmem
    · cases hmem
    · exact htold host? hhost host hmem

theorem kind_of_ofFileAuthority (h : ofFileAuthority t r = .ok a) : a.Kind := by
  have hnone : ∀ host?, (Except.ok none : Except AddressError (Option Host)) = .ok host? →
      ∀ host ∈ host?, host.IsTold := by
    intro host? hread host hhost
    cases hread
    cases hhost
  -- A drive in the place of the host is no host, and one that is empty is none either.
  unfold ofFileAuthority at h
  dsimp only at h
  split at h
  · split at h
    · exact kind_of_readLocalHost hnone h
    · exact kind_of_readLocalHost (fun _ => Host.isTold_of_map_parse) h
  · split at h
    · exact kind_of_readLocalHost hnone h
    · exact kind_of_readLocalHost (fun _ => Host.isTold_of_map_parse) h

theorem kind_of_ofFileBody (h : ofFileBody none t r = .ok a) : a.Kind := by
  have hpath : ∀ {b : Address}, ofFilePath none t r = .ok b → b.Kind := by
    intro b hb
    cases hb
    exact .hostless rfl rfl
  unfold ofFileBody at h
  split at h
  · split at h
    · exact kind_of_ofFileAuthority h
    · exact hpath h
  · exact hpath h

theorem head?_percentEncode (h : t.head? ≠ some '/') :
    (percentEncode isControl t).head? ≠ some '/' := by
  cases t with
  | nil => exact h
  | cons c rest =>
    rw [percentEncode, List.flatMap_cons, escapeChar]
    split
    · obtain ⟨b, more, hoctets, -⟩ := exists_octet c
      rw [hoctets]
      simp [escapeOctet]
    · exact h

/-- What stands behind its scheme decides of which kind an address is. -/
theorem kind_of_ofSchemeBody (h : ofSchemeBody none scheme body r = .ok a) : a.Kind := by
  unfold ofSchemeBody at h
  split at h
  · exact kind_of_ofFileBody h
  split at h
  · exact kind_of_ofAuthority h
  split at h
  · exact kind_of_ofAuthority h
  · split at h
    · cases h
      have hnames : ∀ segment ∈ pathSegments false body, '/' ∉ segment :=
        fun segment hsegment => not_mem_of_mem_pathSegments hsegment
      have hwalked : ∀ segment ∈ walk [] (pathSegments false body), '/' ∉ segment :=
        fun segment hsegment => (isName_of_mem_walk (by simp) hnames segment hsegment).slash
      exact .rooted rfl rfl (walk_ne_nil pathSegments_ne_nil) hwalked
    · next hplain =>
      cases h
      exact .rootless rfl rfl (head?_percentEncode (by simpa using hplain))

/-- Every address that is read has a scheme and is of one of the kinds. -/
theorem kind_of_parse (h : parse t = .ok a) : IsScheme a.scheme ∧ a.Kind := by
  unfold parse resolve at h
  dsimp only at h
  split at h
  · next scheme body _ hsplits =>
    rw [scheme_of_ofSchemeBody rfl h]
    exact ⟨isScheme_of_splitScheme hsplits, kind_of_ofSchemeBody h⟩
  · cases h
  · next hbase => cases hbase

/-! ## Written addresses as targets -/

/-- What is written behind the path. -/
def partsText (a : Address) : Text :=
  (a.query.map ('?' :: ·)).getD [] ++ (a.fragment.map ('#' :: ·)).getD []

theorem toText_eq : a.toText = a.scheme ++ (a.siteText ++ (a.path.toText ++ a.partsText)) := by
  simp [toText, resourceText, partsText]

theorem head?_partsText : ∀ c ∈ a.partsText.head?, c = '?' ∨ c = '#' := by
  intro c hc
  unfold partsText at hc
  cases hquery : a.query with
  | some q =>
    rw [hquery] at hc
    cases hc
    exact .inl rfl
  | none =>
    rw [hquery] at hc
    cases hfragment : a.fragment with
    | some f =>
      rw [hfragment] at hc
      cases hc
      exact .inr rfl
    | none =>
      rw [hfragment] at hc
      cases hc

theorem head?_partsText_ne : a.partsText.head? ≠ some '/' := by
  intro hslash
  rcases head?_partsText '/' hslash with heq | heq
  · cases heq
  · cases heq

theorem isEnd_of_mem_head?_segments (list : List Text) :
    ∀ c ∈ ((Path.segments list).toText ++ a.partsText).head?, Authority.isEnd c = true := by
  intro c hc
  cases list with
  | nil =>
    rcases head?_partsText c hc with rfl | rfl
    · rfl
    · rfl
  | cons segment rest =>
    cases hc
    rfl

/-- Without a site, the slashes of a written path are never taken for those of an authority. -/
theorem rooted_ne_slashes (hsite : a.site = none) (hpath : a.path = .segments list)
    (hnames : ∀ segment ∈ list, '/' ∉ segment) (hne : list ≠ []) :
    ∃ rest, a.siteText ++ (a.path.toText ++ a.partsText) = ':' :: '/' :: rest ∧
      rest.head? ≠ some '/' := by
  obtain ⟨first, others, rfl⟩ := List.exists_cons_of_ne_nil hne
  cases first with
  | nil =>
    cases others with
    | nil =>
      refine ⟨a.partsText, ?_, head?_partsText_ne⟩
      simp [siteText, hsite, hpath, Path.toText]
    | cons second others =>
      have htext : a.siteText = ":/.".toList := by
        simp [siteText, hsite, hpath]
      refine ⟨'.' :: (a.path.toText ++ a.partsText), ?_, by simp⟩
      rw [htext]
      rfl
  | cons c name =>
    refine ⟨c :: (name ++ (Path.segments others).toText ++ a.partsText), ?_, ?_⟩
    · simp [siteText, hsite, hpath, Path.toText]
    · rintro ⟨⟩
      exact hnames _ List.mem_cons_self List.mem_cons_self

/-- Written as a target, an address with a host is an absolute one on its site, and one without a
host is none unless its path has no root. Then the whole text may be an authority. -/
theorem Kind.of_parse_toText (h : a.Kind) (hscheme : IsScheme a.scheme)
    (hu : Uri.parse a.toText = .ok u) :
    (∃ s host path query, a.site = some s ∧ s.IsTold host ∧ (∀ n ∈ s.port, n < 65536) ∧
      u = .absolute a.scheme ⟨s.toText⟩ path query) ∨
    (a.isRootless = true ∧ u = .authority ⟨a.toText⟩) := by
  rw [toText_eq] at hu
  cases h with
  | @hosted s host list site path told port =>
    have htext : a.siteText = ':' :: '/' :: '/' :: s.toText := by
      simp [siteText, site]
    rw [htext, path] at hu
    obtain ⟨-, path, query, rfl⟩ :=
      Uri.eq_absolute_of_parse hscheme told.isEnd_eq_false (isEnd_of_mem_head?_segments list) hu
    exact .inl ⟨s, host, path, query, site, told, port, rfl⟩
  | @hostless list site path =>
    have htext : a.siteText = ':' :: '/' :: '/' :: [] := by
      simp [siteText, site, Site.toText, Site.userinfoText]
    rw [htext, path] at hu
    obtain ⟨hempty, -⟩ :=
      Uri.eq_absolute_of_parse hscheme (by simp) (isEnd_of_mem_head?_segments list) hu
    exact absurd rfl hempty
  | @rooted list site path nonempty names =>
    obtain ⟨rest, htext, hrest⟩ := rooted_ne_slashes site path names nonempty
    rw [htext] at hu
    have hslashes : ∀ more, '/' :: rest ≠ '/' :: '/' :: more := by
      rintro more ⟨⟩
      exact hrest rfl
    obtain ⟨-, hend⟩ := Uri.eq_authority_of_parse hscheme hslashes hu
    have hslash : Authority.isEnd '/' = false := hend '/' List.mem_cons_self
    cases hslash
  | @rootless text site path plain =>
    have htext : a.siteText ++ (a.path.toText ++ a.partsText) = ':' :: (text ++ a.partsText) := by
      simp [siteText, site, path, Path.toText]
    have hslashes : ∀ more, text ++ a.partsText ≠ '/' :: '/' :: more := by
      intro more heq
      cases text with
      | nil => exact head?_partsText_ne (congrArg List.head? heq)
      | cons c rest => exact plain (congrArg List.head? heq)
    rw [htext] at hu
    obtain ⟨rfl, -⟩ := Uri.eq_authority_of_parse hscheme hslashes hu
    right
    refine ⟨?_, ?_⟩
    · rw [isRootless, path]
    · rw [toText_eq, htext]

end Address

end Courier.Web
