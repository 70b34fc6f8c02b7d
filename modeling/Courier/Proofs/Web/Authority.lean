import Courier.Proofs.Web.Site

/-!
# Whose site a reference leads to

A reference either has a site of its own, to which it leads from every web address, or it stays on
the site of the address, or it leads to an address of another kind. Repeating the scheme of the
address does not give a reference a site: without the two slashes it stays where it is.
-/

namespace Courier.Web

open Uri (IsWebScheme)

variable {t scheme rest body : Text} {base a : Address} {r : Reference}

/-! ## Wrong sites -/

theorem Ipv4.parse_ne_relativeWithoutBase : Ipv4.parse t ≠ .error .relativeWithoutBase := by
  intro h
  unfold Ipv4.parse at h
  split at h
  · cases h
  split at h
  · cases h
  dsimp only at h
  split at h
  · cases h
  · cases h

theorem Ipv6.parse_ne_relativeWithoutBase : Ipv6.parse t ≠ .error .relativeWithoutBase := by
  intro h
  unfold Ipv6.parse at h
  dsimp only at h
  split at h
  · cases h
  · cases h

theorem Host.parse_ne_relativeWithoutBase : Host.parse t ≠ .error .relativeWithoutBase := by
  intro h
  unfold Host.parse at h
  split at h
  · unfold parseBracketed at h
    split at h
    · exact Ipv6.parse_ne_relativeWithoutBase (map_eq_error.1 h)
    · cases h
  · split at h
    · cases h
    next name _ =>
    split at h
    · cases h
    split at h
    · cases h
    split at h
    · exact Ipv4.parse_ne_relativeWithoutBase (map_eq_error.1 h)
    · cases h

theorem readPort_ne_relativeWithoutBase : readPort scheme t ≠ .error .relativeWithoutBase := by
  intro h
  unfold readPort at h
  dsimp only at h
  split at h
  · cases h
  split at h
  · cases h
  split at h
  · cases h
  · cases h

theorem readSite_ne_relativeWithoutBase {ends : Bool} (hspecial : isSpecial scheme = true) :
    readSite scheme t ends ≠ .error .relativeWithoutBase := by
  intro h
  unfold readSite at h
  split at h
  · cases h
  rcases bind_eq_error.1 h with hread | ⟨x, -, h⟩
  · unfold readHostAndPort at hread
    simp only [hspecial, Bool.true_or, if_true] at hread
    split at hread
    · cases hread
    rcases bind_eq_error.1 hread with hhost | ⟨host, -, hread⟩
    · exact Host.parse_ne_relativeWithoutBase hhost
    rcases bind_eq_error.1 hread with hport | ⟨port, -, hread⟩
    · exact readPort_ne_relativeWithoutBase hport
    · cases hread
  · dsimp only at h
    split at h
    · cases h
    · cases h

/-! ## Kinds of references -/

namespace Reference

/-- A reference with a site of its own: the scheme, and what is read after the slashes. -/
inductive HasSite (r : Reference) : Text → Text → Prop
  | absolute {scheme rest : Text} (splits : splitScheme r.body = some (scheme, rest))
    (web : scheme = "http".toList ∧ OpensAuthority rest ∨ scheme = "https".toList) :
    HasSite r scheme (rest.drop (rest.takeWhile (isSlash true)).length)
  | network (splits : splitScheme r.body = none) (opens : OpensAuthority r.body) :
    HasSite r "http".toList (afterSlashes r.body)

/-- A reference that repeats the scheme of a web address and opens no authority. -/
def RepeatsScheme (r : Reference) : Prop :=
  ∃ rest, splitScheme r.body = some ("http".toList, rest) ∧ ¬ OpensAuthority rest

theorem repeatsScheme_iff : r.RepeatsScheme ↔
    ((splitScheme r.body).any fun (scheme, rest) =>
      scheme == "http".toList && !decide (OpensAuthority rest)) = true := by
  rw [Option.any_eq_true]
  constructor
  · rintro ⟨rest, hsplits, hplain⟩
    exact ⟨_, hsplits, by simp [hplain]⟩
  · rintro ⟨⟨scheme, rest⟩, hsplits, hboth⟩
    obtain ⟨rfl, hplain⟩ : scheme = "http".toList ∧ ¬ OpensAuthority rest := by simpa using hboth
    exact ⟨rest, hsplits, hplain⟩

instance : Decidable r.RepeatsScheme :=
  decidable_of_iff _ repeatsScheme_iff.symm

/-- A reference that leads from a web address to a place on the same site. -/
def StaysOnSite (r : Reference) : Prop :=
  r.IsPathOnly ∨ r.RepeatsScheme

theorem HasSite.isWebScheme (h : r.HasSite scheme rest) : IsWebScheme scheme := by
  cases h with
  | absolute _ web => exact web.imp And.left id
  | network => exact .inl rfl

theorem HasSite.not_repeatsScheme (h : r.HasSite scheme rest) : ¬ r.RepeatsScheme := by
  rintro ⟨after, hafter, hplain⟩
  cases h with
  | absolute splits web =>
    rw [splits] at hafter
    cases hafter
    rcases web with ⟨-, hopens⟩ | hhttps
    · exact hplain hopens
    · exact absurd hhttps (by decide)
  | network splits =>
    rw [splits] at hafter
    cases hafter

end Reference

/-! ## Web addresses -/

/-- A web address with the scheme `http`, as it is read from a text. -/
structure IsWebBase (base : Address) : Prop where
  scheme : base.scheme = "http".toList
  hosted : base.host?.isSome = true
  rooted : ∃ place, place ≠ [] ∧ base.path = .segments place

namespace Address

open Reference

theorem scheme_of_ofAuthority (h : ofAuthority scheme rest r = .ok a) : a.scheme = scheme := by
  obtain ⟨_, _, _, _, _, -, rfl⟩ := exists_of_ofAuthority h
  rfl

/-- An authority of a web scheme is read as a site with a host. -/
theorem isRead_of_ofAuthority (hscheme : IsWebScheme scheme)
    (h : ofAuthority scheme rest r = .ok a) :
    ∃ s host place, s.IsRead host ∧ place ≠ [] ∧
      a = withParts scheme (some s) (.segments place) r := by
  have hspecial := isSpecial_of_isWebScheme hscheme
  obtain ⟨_, _, s, _, path, hsite, rfl⟩ := exists_of_ofAuthority h
  obtain ⟨host, hread⟩ := isRead_of_readSite hspecial hsite
  rw [hspecial, readPath_true]
  exact ⟨s, host, _, hread, walk_ne_nil pathSegments_ne_nil, rfl⟩

/-- An authority of a web scheme may be wrong, but it is no lack of a base. -/
theorem ofAuthority_ne_relativeWithoutBase (hscheme : IsWebScheme scheme) :
    ofAuthority scheme rest r ≠ .error .relativeWithoutBase := by
  intro h
  unfold ofAuthority at h
  rcases bind_eq_error.1 h with hsite | ⟨x, -, h⟩
  · exact readSite_ne_relativeWithoutBase (isSpecial_of_isWebScheme hscheme) hsite
  · cases h

theorem isWebBase_of_ofAuthority (h : ofAuthority "http".toList rest r = .ok a) : IsWebBase a := by
  obtain ⟨s, host, place, hread, hplace, rfl⟩ := isRead_of_ofAuthority (.inl rfl) h
  refine ⟨rfl, ?_, place, hplace, rfl⟩
  rw [host?, withParts, Option.bind_some, hread.named]
  rfl

/-! ## Reading what follows a scheme -/

theorem ofSchemeBody_of_isWebScheme {base : Option Address} (hscheme : IsWebScheme scheme)
    (h : OpensAuthority body ∨ base.filter (·.scheme == scheme) = none) :
    ofSchemeBody base scheme body r
      = ofAuthority scheme (body.drop (body.takeWhile (isSlash true)).length) r := by
  unfold ofSchemeBody
  simp only [ne_fileScheme_of_isWebScheme hscheme, isSpecial_of_isWebScheme hscheme, if_true,
    Bool.false_eq_true, if_false]
  cases hbase : base.filter (·.scheme == scheme) with
  | none => rfl
  | some b =>
    rcases h with hopens | hnone
    · unfold OpensAuthority at hopens
      exact if_neg (by omega)
    · rw [hnone] at hbase
      cases hbase

theorem ofSchemeBody_of_not_opensAuthority (hb : base.scheme = "http".toList)
    (h : ¬ OpensAuthority body) :
    ofSchemeBody (some base) "http".toList body r = ofRelativeBody base body r := by
  have hsame : (some base).filter (·.scheme == "http".toList) = some base := by
    simp [Option.filter, hb]
  unfold OpensAuthority at h
  unfold ofSchemeBody
  rw [if_neg (by decide), if_pos (by decide)]
  simp only [hsame]
  exact if_pos (by omega)

theorem filter_scheme_eq_none (h : base.scheme ≠ scheme) :
    (some base).filter (·.scheme == scheme) = none := by
  rw [Option.filter_some, if_neg (by simpa using h)]

theorem scheme_of_ofFileAuthority (h : ofFileAuthority body r = .ok a) : a.scheme = fileScheme := by
  unfold ofFileAuthority at h
  dsimp only at h
  split at h
  all_goals
    split at h
    all_goals
      obtain ⟨_, -, h⟩ := bind_eq_ok.1 h
      cases h
      rfl

theorem scheme_of_ofFilePath {base : Option Address} (hb : ∀ b ∈ base, b.scheme = fileScheme)
    (h : ofFilePath base body r = .ok a) : a.scheme = fileScheme := by
  unfold ofFilePath at h
  dsimp only at h
  split at h
  · next b =>
    split at h
    · cases h
      exact hb b rfl
    · split at h
      · cases h
        rfl
      · cases h
        rfl
  · cases h
    rfl

theorem scheme_of_ofFileBody {base : Option Address} (hb : ∀ b ∈ base, b.scheme = fileScheme)
    (h : ofFileBody base body r = .ok a) : a.scheme = fileScheme := by
  unfold ofFileBody at h
  split at h
  · split at h
    · exact scheme_of_ofFileAuthority h
    · exact scheme_of_ofFilePath hb h
  · exact scheme_of_ofFilePath hb h

/-- A reference that names a scheme other than that of its base leads to an address under it. -/
theorem scheme_of_ofSchemeBody {base : Option Address}
    (hbase : base.filter (·.scheme == scheme) = none)
    (h : ofSchemeBody base scheme body r = .ok a) : a.scheme = scheme := by
  unfold ofSchemeBody at h
  split at h
  · next hfile =>
    obtain rfl : scheme = fileScheme := by simpa using hfile
    rw [hbase] at h
    exact scheme_of_ofFileBody (by simp) h
  split at h
  · simp only [hbase] at h
    exact scheme_of_ofAuthority h
  split at h
  · exact scheme_of_ofAuthority h
  split at h
  · cases h
    rfl
  · cases h
    rfl

/-! ## Joining -/

theorem join_of_splitScheme (h : splitScheme (ofText t).body = some (scheme, body)) :
    base.join t = ofSchemeBody (some base) scheme body (ofText t) := by
  unfold join resolve
  simp only [h]

theorem parse_of_splitScheme (h : splitScheme (ofText t).body = some (scheme, body)) :
    parse t = ofSchemeBody none scheme body (ofText t) := by
  unfold parse resolve
  simp only [h]

/-- A reference with a site of its own leads there from every web address. -/
theorem join_of_hasSite (hb : IsWebBase base) (h : (ofText t).HasSite scheme rest) :
    base.join t = ofAuthority scheme rest (ofText t) := by
  obtain ⟨place, -, hpath⟩ := hb.rooted
  cases h with
  | absolute splits web =>
    rw [join_of_splitScheme splits]
    apply ofSchemeBody_of_isWebScheme (web.imp And.left id)
    rcases web with ⟨-, hopens⟩ | rfl
    · exact .inl hopens
    · refine .inr (filter_scheme_eq_none ?_)
      rw [hb.scheme]
      decide
  | network splits opens =>
    rw [join_eq_ofRelativeBody (.inl hb.scheme) hpath splits]
    exact ofRelativeBody_of_opensAuthority hb.scheme opens

theorem ofRelativeBody_of_not_opensAuthority (hb : IsWebBase base) (h : ¬ OpensAuthority body) :
    ∃ place query, place ≠ [] ∧ ofRelativeBody base body r = .ok { base with
      path := .segments place
      query := query
      fragment := fragmentOf r } := by
  obtain ⟨place, hplace, hpath⟩ := hb.rooted
  unfold OpensAuthority at h
  unfold ofRelativeBody
  simp only [hb.scheme, show isSpecial "http".toList = true from by decide, if_neg h]
  split
  · exact ⟨place, _, hplace, by rw [hpath]⟩
  split
  · exact ⟨_, _, walk_ne_nil pathSegments_ne_nil, rfl⟩
  · exact ⟨_, _, walk_ne_nil pathSegments_ne_nil, rfl⟩

theorem join_of_staysOnSite (hb : IsWebBase base) (h : (ofText t).StaysOnSite) :
    ∃ place query, place ≠ [] ∧ base.join t = .ok { base with
      path := .segments place
      query := query
      fragment := fragmentOf (ofText t) } := by
  rcases h with honly | ⟨after, hsplits, hplain⟩
  · obtain ⟨place, -, hpath⟩ := hb.rooted
    rw [join_eq_ofRelativeBody (.inl hb.scheme) hpath honly.scheme]
    exact ofRelativeBody_of_not_opensAuthority hb honly.authority
  · rw [join_of_splitScheme hsplits, ofSchemeBody_of_not_opensAuthority hb.scheme hplain]
    exact ofRelativeBody_of_not_opensAuthority hb hplain

/-- A reference that leads from one web address to another has a site of its own or stays on
the site. -/
theorem hasSite_or_staysOnSite (hb : IsWebBase base) (h : base.join t = .ok a)
    (hweb : IsWebScheme a.scheme) :
    (∃ scheme rest, (ofText t).HasSite scheme rest) ∨ (ofText t).StaysOnSite := by
  cases hsplits : splitScheme (ofText t).body with
  | none =>
    by_cases hopens : OpensAuthority (ofText t).body
    · exact .inl ⟨_, _, .network hsplits hopens⟩
    · exact .inr (.inl ⟨hsplits, hopens⟩)
  | some split =>
    obtain ⟨scheme, rest⟩ := split
    by_cases hhttp : scheme = "http".toList
    · subst hhttp
      by_cases hopens : OpensAuthority rest
      · exact .inl ⟨_, _, .absolute hsplits (.inl ⟨rfl, hopens⟩)⟩
      · exact .inr (.inr ⟨rest, hsplits, hopens⟩)
    · have hother : (some base).filter (·.scheme == scheme) = none := by
        apply filter_scheme_eq_none
        rw [hb.scheme]
        exact Ne.symm hhttp
      rw [join_of_splitScheme hsplits] at h
      rw [scheme_of_ofSchemeBody hother h] at hweb
      exact .inl ⟨_, _, .absolute hsplits (.inr (hweb.resolve_left hhttp))⟩

/-! ## Bases -/

/-- A reference without a scheme leads from a web address to another one. -/
theorem isWebBase_of_join (hb : IsWebBase base) (hsplits : splitScheme (ofText t).body = none)
    (h : base.join t = .ok a) : IsWebBase a := by
  by_cases hopens : OpensAuthority (ofText t).body
  · rw [join_of_hasSite hb (.network hsplits hopens)] at h
    exact isWebBase_of_ofAuthority h
  · obtain ⟨place, query, hplace, hjoin⟩ := join_of_staysOnSite hb (.inl ⟨hsplits, hopens⟩)
    rw [hjoin] at h
    cases h
    exact ⟨hb.scheme, hb.hosted, place, hplace, rfl⟩

/-- Every address that is read with the scheme `http` is a web address. -/
theorem isWebBase_of_parse (h : parse t = .ok a) (hscheme : a.scheme = "http".toList) :
    IsWebBase a := by
  cases hsplits : splitScheme (ofText t).body with
  | none =>
    unfold parse resolve at h
    simp only [hsplits] at h
    cases h
  | some split =>
    obtain ⟨scheme, rest⟩ := split
    rw [parse_of_splitScheme hsplits] at h
    obtain rfl : scheme = "http".toList := (scheme_of_ofSchemeBody rfl h).symm.trans hscheme
    rw [ofSchemeBody_of_isWebScheme (.inl rfl) (.inr rfl)] at h
    exact isWebBase_of_ofAuthority h

end Address

end Courier.Web
