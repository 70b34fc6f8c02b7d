import Courier.Proofs.Redirect.Absolute
import Courier.Proofs.Redirect.Chain
import Courier.Proofs.Web.Written

/-!
# Targets of locations

What a location leads to can be asked for again. It is a web target with a host, or a path where
the request named no host, and it is read back from its written form. The next location is resolved
against the address of that target, which is the target itself: resolution changes nothing that it
has made. Two kinds of targets are exceptions: a path that opens with two slashes is taken for the
authority of another host, and an international name can be so long in ASCII that it is not read.
-/

namespace Courier.Redirect

open Web
open Uri (IsWebScheme)

variable {l : Text} {current u : Uri} {base a : Address}

/-! ## Resolved addresses -/

theorem isWritten_placeholder : placeholder.IsWritten where
  site := by
    refine ⟨_, _, rfl, ⟨⟨[], rfl⟩, fun p hp => (nomatch hp), rfl, ?_⟩, fun p hp => (nomatch hp),
      fun n hn => (nomatch hn)⟩
    exact ⟨"origin-form.invalid".toList, by decide +kernel⟩
  path := ⟨_, List.cons_ne_nil [] [], by simpa using isWrittenName_nil, rfl⟩
  query := fun q hq => (nomatch hq)

theorem isWritten_of_baseAddress? (hbase : baseAddress? current = some base)
    (hweb : IsWebScheme base.scheme) : base.IsWritten := by
  unfold baseAddress? at hbase
  split at hbase
  · exact Address.isWritten_of_resolve (by simp) (eq_ok_of_toOption hbase) hweb
  · refine Address.isWritten_of_resolve ?_ (eq_ok_of_toOption hbase) hweb
    rintro b ⟨⟩ -
    exact isWritten_placeholder

/-- What a location leads to is a written address, or its path where the request named no host. -/
theorem exists_isWritten_of_resolveLocation (hu : resolveLocation current l = some u) :
    ∃ a : Address, IsWebScheme a.scheme ∧ a.IsWritten ∧ (Uri.parse a.resourceText = .ok u ∨
      hasHost current = false ∧ Uri.parse (Uri.joinQuery a.path.toText a.query) = .ok u) := by
  obtain ⟨base, a, hbase, hjoin, hweb, hparse⟩ := exists_join_of_resolveLocation hu
  have hwritten : a.IsWritten := by
    refine Address.isWritten_of_resolve ?_ hjoin hweb
    rintro b ⟨⟩ hb
    exact isWritten_of_baseAddress? hbase hb
  refine ⟨a, hweb, hwritten, ?_⟩
  split at hparse
  · next hpath =>
    rw [Bool.and_eq_true, Bool.not_eq_true'] at hpath
    exact .inr ⟨hpath.1, hparse⟩
  · exact .inl hparse

/-! ## Targets -/

/-- The forms of a target: a web target with a host, or a path where the request named no host. -/
inductive HasTargetForm (current : Uri) : Uri → Prop
  | absolute {scheme path : Text} {name : Authority} {query : Option Text}
    (web : IsWebScheme scheme) (hosted : name.host ≠ []) :
    HasTargetForm current (.absolute scheme name path query)
  | origin {path : Text} {query : Option Text} (slash : path.head? = some '/')
    (hostless : current.scheme? = none ∨ current.authority? = none) :
    HasTargetForm current (.origin path query)

/-- A target to which a request can be redirected. -/
structure IsTargetFrom (current u : Uri) : Prop where
  form : HasTargetForm current u
  fragment : '#' ∉ u.toText
  parse : Uri.parse u.toText = .ok u

/-- An address that is nothing but a target: written like it where the target has a host, and on the
placeholder where it has none, with the same path and the same query. -/
structure IsBaseOf (base : Address) (u : Uri) : Prop where
  site : if hasHost u then base.resourceText = u.toText else base.site = placeholder.site
  path : base.path.toText = u.path
  query : base.query = u.query?
  fragment : base.fragment = none

/-- A target whose host, if it has one, is written with labels that can be read. -/
def NamesReadable (u : Uri) : Prop :=
  ∀ name ∈ u.authority?, Label.AreReadable name.host

instance (u : Uri) : Decidable (NamesReadable u) :=
  inferInstanceAs (Decidable (∀ name ∈ u.authority?, Label.AreReadable name.host))

theorem hasHost_eq_false_iff :
    hasHost u = false ↔ u.scheme? = none ∨ u.authority? = none := by
  rw [hasHost, Bool.and_eq_false_iff, Option.isSome_eq_false_iff, Option.isSome_eq_false_iff,
    Option.isNone_iff_eq_none, Option.isNone_iff_eq_none]

theorem fragment_not_mem_absolute {scheme path : Text} {name : Authority} {query : Option Text}
    (hweb : IsWebScheme scheme) (hu : Uri.IsSiteTarget name path query) :
    '#' ∉ (Uri.absolute scheme name path query).toText := by
  have hfront : '#' ∉ scheme ++ "://".toList := by
    rcases hweb with rfl | rfl <;> decide
  intro hc
  rw [toText_absolute, ← List.append_assoc] at hc
  rcases List.mem_append.1 hc with hc | hc
  · exact hfront hc
  rcases List.mem_append.1 hc with hc | hc
  · exact absurd (Authority.isAuthorityChar_of_check hu.checked _ hc) (by decide)
  · exact Uri.fragment_not_mem_joinQuery hu.target hc

theorem isTargetFrom_absolute (hweb : IsWebScheme a.scheme) (hwritten : a.IsWritten)
    (hparse : Uri.parse a.resourceText = .ok u) : IsTargetFrom current u := by
  obtain ⟨s, host, hsite, hs⟩ := hwritten.site
  obtain rfl := hwritten.eq_absolute_of_parse hweb hsite hparse
  obtain ⟨name, hname⟩ := hs.read.parsed
  refine ⟨.absolute hweb ?_, ?_, ?_⟩
  · rw [hs.read.host_toText]
    exact Host.toText_ne_nil hname
  · exact fragment_not_mem_absolute hweb (Uri.isSiteTarget_of_parse hparse)
  · rw [toText_absolute, ← Address.resourceText_eq hsite, hparse]

theorem isTargetFrom_origin (hwritten : a.IsWritten) (hhost : hasHost current = false)
    (hparse : Uri.parse (Uri.joinQuery a.path.toText a.query) = .ok u) :
    IsTargetFrom current u := by
  obtain rfl := hwritten.eq_origin_of_parse hparse
  refine ⟨.origin hwritten.head?_toText (hasHost_eq_false_iff.1 hhost), ?_, hparse⟩
  exact Uri.fragment_not_mem_joinQuery (Uri.isPathTarget_of_parse hparse)

/-! ## Bases of targets -/

/-- A target with a host is read as the address that it was written from, if its host is read. -/
theorem isBaseOf_absolute (hweb : IsWebScheme a.scheme) (hwritten : a.IsWritten)
    (hparse : Uri.parse a.resourceText = .ok u) :
    hasHost u = true ∧ ((∃ base, baseAddress? u = some base ∧ IsBaseOf base u) ↔ NamesReadable u) := by
  obtain ⟨s, host, hsite, hs⟩ := hwritten.site
  obtain ⟨name, hname⟩ := hs.read.parsed
  have hread := hwritten.parse_resourceText hweb hsite hs hparse
  obtain rfl := hwritten.eq_absolute_of_parse hweb hsite hparse
  have hhost : hasHost (.absolute a.scheme ⟨s.toText⟩ a.path.toText a.query) = true := rfl
  have htext : (Uri.absolute a.scheme ⟨s.toText⟩ a.path.toText a.query).toText
      = a.resourceText := by
    rw [toText_absolute, Address.resourceText_eq hsite]
  have hnames : NamesReadable (.absolute a.scheme ⟨s.toText⟩ a.path.toText a.query) ↔
      host.IsReadable := by
    simp only [NamesReadable, Uri.authority?, Option.mem_some_iff, forall_eq', hs.read.host_toText,
      Host.IsReadable]
  refine ⟨hhost, ?_⟩
  rw [hnames, baseAddress?, if_pos hhost, htext, hread, Host.parse_toText hname]
  by_cases hreadable : host.IsReadable
  · rw [if_pos hreadable]
    refine iff_of_true ⟨_, rfl, ?_, rfl, rfl, rfl⟩ hreadable
    have hsame : { s with host := some host } = s := by rw [← hs.read.named]
    rw [if_pos hhost, htext]
    dsimp only
    rw [hsame, ← hsite]
    rfl
  · rw [if_neg hreadable]
    refine iff_of_false ?_ hreadable
    rintro ⟨base, hbase, -⟩
    cases hbase

/-- A path that opens with two slashes is longer than the path of the base that is made of it. -/
theorem not_isBaseOf_of_opensAuthority {path : Text} {query : Option Text} {names : List Text}
    (ht : Uri.IsPathTarget path query) (hnames : ∀ s ∈ names, IsWrittenName s)
    (hpath : path = (Path.segments names).toText) (hopens : Reference.OpensAuthority path)
    (hbase : baseAddress? (.origin path query) = some base) :
    ¬ IsBaseOf base (.origin path query) := by
  intro hof
  rw [baseAddress?_origin_of_opens ht hopens] at hbase
  subst hpath
  obtain ⟨name, rest, rfl⟩ := Address.exists_of_opensAuthority hnames hopens
  have hafter : Reference.afterSlashes (Path.segments ([] :: name :: rest)).toText =
      name ++ (Path.segments rest).toText := rfl
  rw [hafter] at hbase
  have hfound := Address.path_of_ofAuthority (.inl rfl) (hnames name (by simp))
    (fun s hs => hnames s (by simp [hs])) (eq_ok_of_toOption hbase)
  -- the first name was read as a host, and is no longer in the path
  have hsame : (Path.segments (if rest.isEmpty then [[]] else rest)).toText =
      '/' :: '/' :: (name ++ (Path.segments rest).toText) := by
    rw [← hfound, hof.path]
    rfl
  have hlength := congrArg List.length hsame
  rw [List.length_cons, List.length_cons, List.length_append] at hlength
  split at hlength
  · exact absurd hlength (by simp [Path.toText])
  · omega

/-- A path is put on the placeholder as it is, unless it opens with two slashes. -/
theorem isBaseOf_origin (hwritten : a.IsWritten)
    (hparse : Uri.parse (Uri.joinQuery a.path.toText a.query) = .ok u) :
    hasHost u = false ∧ ((∃ base, baseAddress? u = some base ∧ IsBaseOf base u) ↔
      ¬ Reference.OpensAuthority u.path) := by
  obtain rfl := hwritten.eq_origin_of_parse hparse
  have ht := Uri.isPathTarget_of_parse hparse
  refine ⟨rfl, ?_, fun hplain => ?_⟩
  · rintro ⟨base, hbase, hof⟩ hopens
    obtain ⟨names, -, hnames, hpath⟩ := hwritten.path
    have htext : a.path.toText = (Path.segments names).toText := congrArg Path.toText hpath
    exact not_isBaseOf_of_opensAuthority ht hnames htext hopens hbase hof
  · have hplain : ¬ Reference.OpensAuthority a.path.toText := hplain
    refine ⟨_, baseAddress?_origin_eq ht hplain, rfl, ?_, hwritten.map_percentEncode, rfl⟩
    exact congrArg Path.toText hwritten.walk_toText

/-- **Targets.** What a location leads to from any request target is a target again, and it is its
own base unless a label of its host is too long to be read or it is a path that opens with two
slashes. -/
theorem isTargetFrom_of_resolveLocation (hu : resolveLocation current l = some u) :
    IsTargetFrom current u ∧ ((∃ base, baseAddress? u = some base ∧ IsBaseOf base u) ↔
      NamesReadable u ∧ (hasHost u = true ∨ ¬ Reference.OpensAuthority u.path)) := by
  obtain ⟨a, hweb, hwritten, hparse | ⟨hhost, hparse⟩⟩ := exists_isWritten_of_resolveLocation hu
  · obtain ⟨hhosted, hbase⟩ := isBaseOf_absolute hweb hwritten hparse
    exact ⟨isTargetFrom_absolute hweb hwritten hparse, by simp [hhosted, hbase]⟩
  · obtain ⟨hhostless, hbase⟩ := isBaseOf_origin hwritten hparse
    refine ⟨isTargetFrom_origin hwritten hhost hparse, ?_⟩
    have hnameless : NamesReadable u := by
      rw [hwritten.eq_origin_of_parse hparse]
      rintro name ⟨⟩
    rw [hbase, hhostless]
    simp [hnameless]

/-! ## Chains -/

namespace Rules

variable {r : Rules} {request d : Descriptor} {turns : List Turn} {turn : Turn} {k : Nat}

/-- Along every chain of hops, each target is one from the target that the request before it was
for, and the request after it is for that target. It is what the next location is resolved against
as well, unless a label of its host is too long to be read or it is a path that opens with two
slashes. -/
theorem isTargetFrom_along_chain (hresolver : r.resolver = byLocation)
    (hresolves : r.Resolves request turns) (hd : (r.chain request turns)[k]? = some d)
    (hturn : turns[k]? = some turn) :
    IsTargetFrom d.uri turn.target ∧
    (∀ next, (r.chain request turns)[k + 1]? = some next → next.uri = turn.target) ∧
    ((∃ base, baseAddress? turn.target = some base ∧ IsBaseOf base turn.target) ↔
      NamesReadable turn.target ∧
        (hasHost turn.target = true ∨ ¬ Reference.OpensAuthority turn.target.path)) := by
  obtain ⟨head, -, hfound⟩ := hresolves k d turn hd hturn
  rw [hresolver] at hfound
  obtain ⟨l, -, hu⟩ := Option.bind_eq_some_iff.1 hfound
  obtain ⟨htarget, hbase⟩ := isTargetFrom_of_resolveLocation hu
  refine ⟨htarget, fun next hnext => ?_, hbase⟩
  obtain ⟨d', turn', hd', hturn', rfl⟩ := exists_turn_of_succ hnext
  cases hd.symm.trans hd'
  cases hturn.symm.trans hturn'
  rfl

/-- Two redirects: to a path, and from there to another host. -/
def visit : List Turn :=
  [⟨⟨302⟩, .origin "/a/b".toList (some "q=1".toList)⟩,
    ⟨⟨302⟩, .absolute "http".toList ⟨"b.test".toList⟩ "/y".toList none⟩]

theorem resolves_visit : ({} : Rules).Resolves page visit := by
  have hfirst : byLocation page (redirectTo { octets := Octets.ofString "./a/%2e/b?q=1#top" }) =
      some (.origin "/a/b".toList (some "q=1".toList)) := by
    decide +kernel
  have hsecond : byLocation
      (({} : Rules).hop page ⟨302⟩ (.origin "/a/b".toList (some "q=1".toList))).request toOther =
      some (.absolute "http".toList ⟨"b.test".toList⟩ "/y".toList none) := by
    decide +kernel
  exact resolves_cons rfl hfirst (resolves_cons rfl hsecond resolves_nil)

theorem isTargetFrom_along_visit :
    ({} : Rules).Resolves page visit ∧
    IsTargetFrom page.uri (.origin "/a/b".toList (some "q=1".toList)) ∧
    IsTargetFrom (.origin "/a/b".toList (some "q=1".toList))
      (.absolute "http".toList ⟨"b.test".toList⟩ "/y".toList none) ∧
    ∃ base, baseAddress? (.origin "/a/b".toList (some "q=1".toList)) = some base ∧
      IsBaseOf base (.origin "/a/b".toList (some "q=1".toList)) := by
  obtain ⟨hfirst, -, hbase⟩ := isTargetFrom_along_chain (r := {}) (k := 0) rfl resolves_visit rfl
    rfl
  have hsecond := isTargetFrom_along_chain (r := {}) (k := 1) rfl resolves_visit rfl rfl
  exact ⟨resolves_visit, hfirst, hsecond.1, hbase.2 ⟨by decide, .inr (by decide)⟩⟩

/-- A redirect to a path that opens with two slashes and a bracket. -/
def toBracket : List Turn :=
  [⟨⟨302⟩, .origin "//[".toList none⟩]

/-- From a path that opens with two slashes a later location may not be followed, even one that
stands alone. -/
theorem not_hasBase_along_toBracket :
    ({} : Rules).Resolves page toBracket ∧
    ∃ d, (({} : Rules).chain page toBracket)[1]? = some d ∧
      d.uri = .origin "//[".toList none ∧ ¬ HasBase d.uri ∧ byLocation d toOther = none ∧
      byLocation page toOther
        = some (.absolute "http".toList ⟨"b.test".toList⟩ "/y".toList none) := by
  have hfound : byLocation page (redirectTo { octets := Octets.ofString "/.//[" }) =
      some (.origin "//[".toList none) := by
    decide +kernel
  have hbase : ¬ HasBase (.origin "//[".toList none) := by decide +kernel
  refine ⟨resolves_cons rfl hfound resolves_nil, _, rfl, rfl, hbase, ?_, ?_⟩
  · decide +kernel
  · decide +kernel

end Rules

end Courier.Redirect
