import Courier.Proofs.Redirect.Location
import Courier.Proofs.Web.Authority

/-!
# Hosts of locations

A target without a host is put on a host of no meaning before a location is resolved against it.
Where it leads should have a host just if the location brings one, and then that one. Whether a
location brings a host is decided twice, by the resolution and by a test on the text as it was
written, and the two differ on two kinds of locations: one that repeats the scheme of the base
without slashes leads to the host of no meaning, and one whose two slashes are set apart by a tab
or a line break loses its host.
-/

namespace Courier.Redirect

open Web

variable {t l scheme rest : Text} {current u : Uri} {base b₁ b₂ a : Address} {host : Host}

/-! ## Bases -/

theorem isWebBase_placeholder : IsWebBase placeholder :=
  ⟨rfl, rfl, [[]], List.cons_ne_nil _ _, rfl⟩

theorem isWebBase_of_placeholder_join (ht : splitScheme (Reference.ofText t).body = none)
    (hbase : (placeholder.join t).toOption = some base) : IsWebBase base :=
  Address.isWebBase_of_join isWebBase_placeholder ht (eq_ok_of_toOption hbase)

/-- A target without a host is put on a web address. -/
theorem isWebBase_of_baseAddress? (hcurrent : Uri.parse t = .ok current)
    (hhost : hasHost current = false) (hbase : baseAddress? current = some base) :
    IsWebBase base := by
  cases current with
  | origin path query =>
    have ht := Uri.isPathTarget_of_parse hcurrent
    rw [baseAddress?_origin ht] at hbase
    apply isWebBase_of_placeholder_join _ hbase
    rw [body_target ht]
    exact splitScheme_of_slash ht.slash
  | asterisk => exact isWebBase_of_placeholder_join (t := ['*']) rfl hbase
  | authority name => exact isWebBase_of_placeholder_join (t := ['/']) rfl hbase
  | absolute scheme name path query => cases hhost

/-! ## The test on the text -/

/-- A location whose two slashes do not stand side by side at its front. -/
def HidesSlashes (l : Text) : Prop :=
  splitScheme (Reference.ofText l).body = none ∧
    Reference.OpensAuthority (Reference.ofText l).body ∧ ¬ Reference.OpensAuthority l

instance : Decidable (HidesSlashes l) :=
  inferInstanceAs (Decidable (_ ∧ _ ∧ _))

theorem isPathReference_of_parse_ne (h : Address.parse l ≠ .error .relativeWithoutBase) :
    isPathReference l = false := by
  unfold isPathReference
  rw [Bool.and_eq_false_iff]
  right
  split
  · next hparse => exact absurd hparse h
  · rfl

/-- A location with a web scheme is no path, whether or not it can be read alone. -/
theorem isPathReference_of_isWebScheme (hscheme : Uri.IsWebScheme scheme)
    (h : splitScheme (Reference.ofText l).body = some (scheme, rest)) :
    isPathReference l = false := by
  apply isPathReference_of_parse_ne
  rw [Address.parse_of_splitScheme h, Address.ofSchemeBody_of_isWebScheme hscheme (.inr rfl)]
  exact Address.ofAuthority_ne_relativeWithoutBase hscheme

/-- A location with a host of its own is taken for a path just if its slashes are hidden. -/
theorem isPathReference_of_hasSite (h : (Reference.ofText l).HasSite scheme rest) :
    isPathReference l = true ↔ HidesSlashes l := by
  cases h with
  | absolute splits web =>
    rw [isPathReference_of_isWebScheme (web.imp And.left id) splits]
    simp [HidesSlashes, splits]
  | network splits opens =>
    rw [isPathReference_of_splitScheme splits]
    simp [HidesSlashes, splits, opens]

/-! ## Resolution -/

theorem eq_of_resolveLocation (hhost : hasHost current = false)
    (hu : resolveLocation current l = some u) :
    ∃ base a, baseAddress? current = some base ∧ base.join l = .ok a ∧ Uri.IsWebScheme a.scheme ∧
      Uri.parse (if isPathReference l then Uri.joinQuery a.path.toText a.query
        else a.resourceText) = .ok u := by
  obtain ⟨base, a, hbase, hjoin, hweb, hparse⟩ := exists_join_of_resolveLocation hu
  rw [hhost, Bool.not_false, Bool.true_and] at hparse
  exact ⟨base, a, hbase, hjoin, hweb, hparse⟩

/-- The host that a location with a site of its own leads to. -/
theorem host?_of_ofAuthority {s : Site} {r : Reference} {place : List Text}
    (hscheme : Uri.IsWebScheme scheme) (hread : s.IsRead host) (hplace : place ≠ [])
    (hu : Uri.parse
      (Address.withParts scheme (some s) (.segments place) r).resourceText = .ok u) :
    u.authority?.isSome = true ∧ u.host? = some host.toText := by
  rw [Address.resourceText_eq rfl] at hu
  obtain ⟨path, query, rfl, -⟩ := Uri.parse_web hscheme hread.isEnd_eq_false
    (Uri.head?_joinQuery (head?_toText hplace)) hu
  exact ⟨rfl, congrArg some hread.host_toText⟩

/-! ## Hosts of locations -/

/-- The host to which a location leads from both of two bases. -/
def SharedHost (b₁ b₂ : Address) (l : Text) (host : Host) : Prop :=
  (b₁.join l).toOption.bind Address.host? = some host ∧
    (b₂.join l).toOption.bind Address.host? = some host

/-- A target has the authority of the location that led to it, and none if that has none. What a
location has of its own shows where it is joined onto two bases. -/
structure KeepsAuthority (b₁ b₂ : Address) (l : Text) (u : Uri) : Prop where
  authority : u.authority?.isSome = true ↔ ∃ host, SharedHost b₁ b₂ l host
  host : ∀ host, SharedHost b₁ b₂ l host → u.host? = some host.toText
  placeholder : ∀ host, placeholder.host? = some host → u.host? = some host.toText →
    SharedHost b₁ b₂ l host

theorem sharedHost_iff_of_hasSite {s : Site} {host' : Host} {path : Web.Path} (h₁ : IsWebBase b₁)
    (h₂ : IsWebBase b₂) (hsite : (Reference.ofText l).HasSite scheme rest)
    (hread : s.IsRead host)
    (ha : Address.ofAuthority scheme rest (Reference.ofText l)
      = .ok (Address.withParts scheme (some s) path (Reference.ofText l))) :
    SharedHost b₁ b₂ l host' ↔ host' = host := by
  unfold SharedHost
  rw [Address.join_of_hasSite h₁ hsite, Address.join_of_hasSite h₂ hsite, ha, and_self]
  simp [Except.toOption, Address.host?, Address.withParts, hread.named, eq_comm]

/-- A location that stays on the site of its base has no host of its own. -/
theorem not_sharedHost_of_staysOnSite (h₁ : IsWebBase b₁) (h₂ : IsWebBase b₂)
    (hhosts : b₁.host? ≠ b₂.host?) (h : (Reference.ofText l).StaysOnSite) :
    ¬ SharedHost b₁ b₂ l host := by
  rintro ⟨hhost₁, hhost₂⟩
  obtain ⟨_, _, -, hjoin₁⟩ := Address.join_of_staysOnSite h₁ h
  obtain ⟨_, _, -, hjoin₂⟩ := Address.join_of_staysOnSite h₂ h
  rw [hjoin₁] at hhost₁
  rw [hjoin₂] at hhost₂
  exact hhosts (hhost₁.trans hhost₂.symm)

/-- No other host is written like the one of no meaning. -/
theorem eq_of_toText_eq_placeholder {other : Host} (h : placeholder.host? = some host)
    (htext : other.toText = host.toText) : other = host := by
  cases h
  cases other with
  | domain name => exact congrArg Host.domain htext
  | ipv4 value =>
    have hletter : 'o' ∈ (Host.ipv4 value).toText := by
      rw [htext]
      decide
    rcases Host.isDigit_of_mem_ipv4 hletter with hdot | hdigit
    · exact absurd hdot (by decide)
    · exact absurd hdigit (by decide)
  | ipv6 pieces => cases htext

theorem keepsAuthority_of_hasSite (h₁ : IsWebBase b₁) (h₂ : IsWebBase b₂)
    (hsite : (Reference.ofText l).HasSite scheme rest)
    (ha : Address.ofAuthority scheme rest (Reference.ofText l) = .ok a)
    (hu : Uri.parse (if isPathReference l then Uri.joinQuery a.path.toText a.query
      else a.resourceText) = .ok u) :
    KeepsAuthority b₁ b₂ l u ↔ ¬ HidesSlashes l := by
  obtain ⟨s, host, place, hread, hplace, rfl⟩ :=
    Address.isRead_of_ofAuthority hsite.isWebScheme ha
  have hshared : ∀ host', SharedHost b₁ b₂ l host' ↔ host' = host := fun host' =>
    sharedHost_iff_of_hasSite h₁ h₂ hsite hread ha
  by_cases hhidden : HidesSlashes l
  · rw [if_pos ((isPathReference_of_hasSite hsite).2 hhidden)] at hu
    obtain ⟨path, query, rfl⟩ :=
      Uri.eq_origin_of_parse hu (Uri.head?_joinQuery (head?_toText hplace))
    refine iff_of_false (fun hkeeps => ?_) (not_not_intro hhidden)
    have hnone := hkeeps.authority.2 ⟨host, (hshared host).2 rfl⟩
    cases hnone
  · rw [if_neg (mt (isPathReference_of_hasSite hsite).1 hhidden)] at hu
    obtain ⟨hauthority, hhost⟩ := host?_of_ofAuthority hsite.isWebScheme hread hplace hu
    refine iff_of_true ⟨iff_of_true hauthority ⟨host, (hshared host).2 rfl⟩, ?_, ?_⟩ hhidden
    · intro host' hhost'
      rw [(hshared host').1 hhost']
      exact hhost
    · intro host' hplaceholder hhost'
      rw [hhost, Option.some.injEq] at hhost'
      exact (hshared host').2 (eq_of_toText_eq_placeholder hplaceholder hhost').symm

theorem keepsAuthority_of_isPathOnly (h₁ : IsWebBase b₁) (h₂ : IsWebBase b₂)
    (hhosts : b₁.host? ≠ b₂.host?) (honly : (Reference.ofText l).IsPathOnly)
    (hu : Uri.parse t = .ok u) (ht : t.head? = some '/') : KeepsAuthority b₁ b₂ l u := by
  obtain ⟨path, query, rfl⟩ := Uri.eq_origin_of_parse hu ht
  have hshared : ∀ host, ¬ SharedHost b₁ b₂ l host := fun host =>
    not_sharedHost_of_staysOnSite h₁ h₂ hhosts (.inl honly)
  refine ⟨iff_of_false (fun h => nomatch h) ?_, ?_, ?_⟩
  · rintro ⟨host, hhost⟩
    exact hshared host hhost
  · intro host hhost
    exact absurd hhost (hshared host)
  · intro host _ hhost
    cases hhost

/-- A location that repeats the scheme leads to the host of its base. -/
theorem isSome_authority?_of_repeatsScheme (hb : IsWebBase base)
    (hrepeats : (Reference.ofText l).RepeatsScheme) (hjoin : base.join l = .ok a)
    (hu : Uri.parse (if isPathReference l then Uri.joinQuery a.path.toText a.query
      else a.resourceText) = .ok u) : u.authority?.isSome = true := by
  obtain ⟨host, hhost⟩ := Option.isSome_iff_exists.1 hb.hosted
  obtain ⟨s, hsite, -⟩ := Option.bind_eq_some_iff.1 hhost
  have hsame : a.scheme = "http".toList ∧ a.site = some s := by
    obtain ⟨place, query, -, hread⟩ := Address.join_of_staysOnSite hb (.inr hrepeats)
    rw [hread] at hjoin
    cases hjoin
    exact ⟨hb.scheme, hsite⟩
  obtain ⟨after, hsplits, -⟩ := hrepeats
  rw [isPathReference_of_isWebScheme (.inl rfl) hsplits, if_neg Bool.false_ne_true,
    Address.resourceText_eq hsame.2, hsame.1] at hu
  exact Uri.isSome_authority?_of_parse_web (.inl rfl) hu

theorem not_keepsAuthority_of_repeatsScheme (h₁ : IsWebBase b₁) (h₂ : IsWebBase b₂)
    (hhosts : b₁.host? ≠ b₂.host?) (hrepeats : (Reference.ofText l).RepeatsScheme)
    (hu : u.authority?.isSome = true) : ¬ KeepsAuthority b₁ b₂ l u := by
  intro hkeeps
  obtain ⟨host, hhost⟩ := hkeeps.authority.1 hu
  exact not_sharedHost_of_staysOnSite h₁ h₂ hhosts (.inr hrepeats) hhost

/-- **Hosts of locations.** A target without a host is left for the host that the location has of
its own, and for none if it has none, unless the location repeats the scheme without slashes or
hides its slashes. Then it is not. -/
theorem keepsAuthority_iff {request : Descriptor} {head : ResponseHead}
    (hcurrent : Uri.parse t = .ok request.uri)
    (hform : request.uri.scheme? = none ∨ request.uri.authority? = none)
    (h₁ : IsWebBase b₁) (h₂ : IsWebBase b₂) (hhosts : b₁.host? ≠ b₂.host?)
    (hlocation : location? head = some l) (hu : byLocation request head = some u) :
    KeepsAuthority b₁ b₂ l u ↔ ¬ (Reference.ofText l).RepeatsScheme ∧ ¬ HidesSlashes l := by
  have hhost : hasHost request.uri = false := by
    unfold hasHost
    rcases hform with hnone | hnone
    · rw [hnone]
      rfl
    · rw [hnone]
      exact Bool.and_false _
  rw [byLocation_eq hlocation] at hu
  obtain ⟨base, a, hbase, hjoin, hweb, hu⟩ := eq_of_resolveLocation hhost hu
  have hb := isWebBase_of_baseAddress? hcurrent hhost hbase
  rcases Address.hasSite_or_staysOnSite hb hjoin hweb with
    ⟨scheme, rest, hsite⟩ | honly | hrepeats
  · rw [Address.join_of_hasSite hb hsite] at hjoin
    rw [keepsAuthority_of_hasSite h₁ h₂ hsite hjoin hu]
    simp [hsite.not_repeatsScheme]
  · obtain ⟨place, query, hplace, hread⟩ := Address.join_of_staysOnSite hb (.inl honly)
    rw [hread] at hjoin
    cases hjoin
    rw [if_pos (isPathReference_of_isPathOnly honly)] at hu
    refine iff_of_true ?_ ⟨?_, ?_⟩
    · exact keepsAuthority_of_isPathOnly h₁ h₂ hhosts honly hu
        (Uri.head?_joinQuery (head?_toText hplace))
    · rintro ⟨after, hsplits, -⟩
      rw [honly.scheme] at hsplits
      cases hsplits
    · exact fun hhidden => honly.authority hhidden.2.1
  · have hauthority := isSome_authority?_of_repeatsScheme hb hrepeats hjoin hu
    refine iff_of_false ?_ fun h => h.1 hrepeats
    exact not_keepsAuthority_of_repeatsScheme h₁ h₂ hhosts hrepeats hauthority

/-- The root of a site. -/
def rootOf (name : String) : Address :=
  { scheme := "http".toList, site := some { host := some (.domain name.toList) },
    path := .segments [[]] }

/-- A location can name its host outside ASCII. -/
theorem keepsAuthority_start :
    Address.parse "http://a.test/".toList = .ok (rootOf "a.test") ∧
    Address.parse "http://c.test/".toList = .ok (rootOf "c.test") ∧
    byLocation { uri := .origin "/start".toList none }
        (redirectTo { octets := Octets.ofString "//b%C3%BCcher.test/y" })
      = some (.absolute "http".toList ⟨"xn--bcher-kva.test".toList⟩ "/y".toList none) ∧
    KeepsAuthority (rootOf "a.test") (rootOf "c.test") "//b%C3%BCcher.test/y".toList
      (.absolute "http".toList ⟨"xn--bcher-kva.test".toList⟩ "/y".toList none) := by
  have h₁ : Address.parse "http://a.test/".toList = .ok (rootOf "a.test") := by rfl
  have h₂ : Address.parse "http://c.test/".toList = .ok (rootOf "c.test") := by rfl
  have hu : byLocation { uri := .origin "/start".toList none }
        (redirectTo { octets := Octets.ofString "//b%C3%BCcher.test/y" })
      = some (.absolute "http".toList ⟨"xn--bcher-kva.test".toList⟩ "/y".toList none) := by
    decide +kernel
  refine ⟨h₁, h₂, hu, ?_⟩
  exact (keepsAuthority_iff (t := "/start".toList) rfl (.inl rfl)
    (Address.isWebBase_of_parse h₁ rfl) (Address.isWebBase_of_parse h₂ rfl) (by decide)
    (by decide) hu).2 ⟨by decide, by decide⟩

/-- A location that repeats the scheme leads to the host of no meaning. -/
theorem not_keepsAuthority_repeatedScheme :
    Uri.parse "/start".toList = .ok (.origin "/start".toList none) ∧
    Address.parse "http://a.test/".toList = .ok (rootOf "a.test") ∧
    Address.parse "http://c.test/".toList = .ok (rootOf "c.test") ∧
    location? (redirectTo { octets := Octets.ofString "http:x" }) = some "http:x".toList ∧
    byLocation { uri := .origin "/start".toList none }
        (redirectTo { octets := Octets.ofString "http:x" })
      = some (.absolute "http".toList ⟨"origin-form.invalid".toList⟩ "/x".toList none) ∧
    ¬ KeepsAuthority (rootOf "a.test") (rootOf "c.test") "http:x".toList
      (.absolute "http".toList ⟨"origin-form.invalid".toList⟩ "/x".toList none) := by
  refine ⟨rfl, rfl, rfl, by decide, by decide +kernel, ?_⟩
  intro hkeeps
  obtain ⟨host, hhost₁, hhost₂⟩ := hkeeps.authority.1 rfl
  have ha : ((rootOf "a.test").join "http:x".toList).toOption.bind Address.host?
      = some (.domain "a.test".toList) := rfl
  have hc : ((rootOf "c.test").join "http:x".toList).toOption.bind Address.host?
      = some (.domain "c.test".toList) := rfl
  rw [ha] at hhost₁
  rw [hc, ← hhost₁] at hhost₂
  exact absurd hhost₂ (by decide)

end Courier.Redirect
