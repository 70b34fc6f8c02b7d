import Courier.Proofs.Web.Target
import Courier.Redirect.Location

/-!
# Locations from a path

A target that is a path alone has no host, yet a location that is a path too should lead from it
to where it leads from the absolute form of the same request. It does so unless the path opens
with two slashes: on its way to the placeholder such a path is taken for a reference to another
host, and the first name of the path is lost.
-/

namespace Courier.Redirect

open Web

variable {path name l : Text} {query : Option Text} {place : List Text} {u v : Uri}
  {base : Address}

/-! ## Bases -/

/-- The place that a path spells. -/
def placeOf (path : Text) : List Text :=
  walk [] (pathSegments true path)

theorem isName_of_mem_placeOf : ∀ s ∈ placeOf path, IsName s :=
  isName_of_mem_walk (fun _ h => nomatch h) fun _ => not_mem_of_mem_pathSegments

theorem placeOf_ne_nil : placeOf path ≠ [] :=
  walk_ne_nil pathSegments_ne_nil

/-- A web address at a place, with a query that is yet to be escaped. -/
structure IsAt (base : Address) (place : List Text) (query : Option Text) : Prop where
  scheme : base.scheme = "http".toList
  path : base.path = .segments place
  query : base.query = query.map (percentEncode (isQueryEscaped true))

theorem isAt_placeholder : IsAt placeholder [[]] none :=
  ⟨rfl, rfl, rfl⟩

theorem splitScheme_of_slash (h : path.head? = some '/') : splitScheme path = none := by
  obtain ⟨rest, rfl⟩ : ∃ rest, path = '/' :: rest := List.head?_eq_some_iff.1 h
  rfl

theorem ofText_target (ht : Uri.IsPathTarget path query) :
    Reference.ofText (Uri.joinQuery path query) = ⟨path, query, none⟩ :=
  Reference.ofText_joinQuery (fun c hc => Uri.plain_of_isPathChar (ht.path c hc))
    fun q hq c hc => Uri.plain_of_isQueryChar (ht.query q hq c hc)

theorem body_target (ht : Uri.IsPathTarget path query) :
    (Reference.ofText (Uri.joinQuery path query)).body = path := by
  rw [ofText_target ht]
  exact clean_eq_self fun c hc => (Uri.plain_of_isPathChar (ht.path c hc)).1

theorem baseAddress?_origin (ht : Uri.IsPathTarget path query) :
    baseAddress? (.origin path query)
      = (placeholder.join (Uri.joinQuery path query)).toOption := by
  obtain ⟨rest, rfl⟩ : ∃ rest, path = '/' :: rest := List.head?_eq_some_iff.1 ht.slash
  rfl

theorem placeFrom_target (ht : Uri.IsPathTarget path query) :
    (Reference.ofText (Uri.joinQuery path query)).placeFrom place = placeOf path := by
  have hbody := body_target ht
  obtain ⟨rest, rfl⟩ : ∃ rest, path = '/' :: rest := List.head?_eq_some_iff.1 ht.slash
  unfold Reference.placeFrom
  rw [hbody]
  rfl

theorem queryFrom_target {q : Option Text} (ht : Uri.IsPathTarget path query) :
    (Reference.ofText (Uri.joinQuery path query)).queryFrom q
      = query.map (percentEncode (isQueryEscaped true)) := by
  have hbody := body_target ht
  obtain ⟨rest, rfl⟩ : ∃ rest, path = '/' :: rest := List.head?_eq_some_iff.1 ht.slash
  unfold Reference.queryFrom
  rw [hbody, ofText_target ht]
  rfl

theorem splitScheme_target (ht : Uri.IsPathTarget path query) :
    splitScheme (Reference.ofText (Uri.joinQuery path query)).body = none := by
  rw [body_target ht]
  exact splitScheme_of_slash ht.slash

/-- The base of a path that does not open with two slashes. -/
theorem baseAddress?_origin_eq (ht : Uri.IsPathTarget path query)
    (hplain : ¬ Reference.OpensAuthority path) :
    baseAddress? (.origin path query) = some { placeholder with
      path := .segments (placeOf path)
      query := query.map (percentEncode (isQueryEscaped true)) } := by
  have honly : (Reference.ofText (Uri.joinQuery path query)).IsPathOnly := by
    refine ⟨splitScheme_target ht, ?_⟩
    rwa [body_target ht]
  have hjoin := Address.join_of_isPathOnly (.inl isAt_placeholder.scheme) isAt_placeholder.path
    honly
  rw [placeFrom_target ht, queryFrom_target ht, ofText_target ht] at hjoin
  rw [baseAddress?_origin ht, hjoin]
  rfl

/-- A path that opens with two slashes is read as what follows them. -/
theorem baseAddress?_origin_of_opens (ht : Uri.IsPathTarget path query)
    (hopens : Reference.OpensAuthority path) :
    baseAddress? (.origin path query)
      = (Address.ofAuthority "http".toList (Reference.afterSlashes path)
        ⟨path, query, none⟩).toOption := by
  have hbody := body_target ht
  have hopens : Reference.OpensAuthority (Reference.ofText (Uri.joinQuery path query)).body := by
    rwa [hbody]
  rw [baseAddress?_origin ht, Address.join_eq_ofRelativeBody (.inl isAt_placeholder.scheme)
    isAt_placeholder.path (splitScheme_target ht),
    Address.ofRelativeBody_of_opensAuthority isAt_placeholder.scheme hopens, hbody,
    ofText_target ht]

/-- A path that does not open with two slashes has its own place as its base. -/
theorem baseAddress?_origin_of_plain (ht : Uri.IsPathTarget path query)
    (hplain : ¬ Reference.OpensAuthority path) :
    ∃ base, baseAddress? (.origin path query) = some base ∧ IsAt base (placeOf path) query :=
  ⟨_, baseAddress?_origin_eq ht hplain, rfl, rfl, rfl⟩

/-- The base of any path is at the place that some path spells. -/
theorem isAt_of_baseAddress?_origin (ht : Uri.IsPathTarget path query)
    (hbase : baseAddress? (.origin path query) = some base) :
    ∃ rest, IsAt base (placeOf rest) query := by
  by_cases hopens : Reference.OpensAuthority path
  · rw [baseAddress?_origin_of_opens ht hopens] at hbase
    obtain ⟨site, rest, rfl⟩ := Address.eq_of_ofAuthority (by decide) (eq_ok_of_toOption hbase)
    exact ⟨rest, rfl, rfl, rfl⟩
  · obtain ⟨base', hbase', hat⟩ := baseAddress?_origin_of_plain ht hopens
    rw [hbase] at hbase'
    cases hbase'
    exact ⟨path, hat⟩

/-! ## Resolution -/

/-- What was done where a location leads somewhere: it was joined onto the base of the request, and
the path of what was found, or all of it, was read as a target. -/
theorem exists_join_of_resolveLocation (hu : resolveLocation v l = some u) :
    ∃ base a, baseAddress? v = some base ∧ base.join l = .ok a ∧ Uri.IsWebScheme a.scheme ∧
      Uri.parse (if !hasHost v && isPathReference l then Uri.joinQuery a.path.toText a.query
        else a.resourceText) = .ok u := by
  unfold resolveLocation at hu
  obtain ⟨base, hbase, hu⟩ := Option.bind_eq_some_iff.1 hu
  obtain ⟨a, hjoin, hu⟩ := Option.bind_eq_some_iff.1 hu
  split at hu
  · next hweb =>
    exact ⟨base, a, hbase, eq_ok_of_toOption hjoin, by simpa [Uri.IsWebScheme] using hweb,
      eq_ok_of_toOption hu⟩
  · cases hu

/-- The text that a path reference leads to from a place with a query. -/
def textFrom (place : List Text) (query : Option Text) (l : Text) : Text :=
  Uri.joinQuery (Path.segments ((Reference.ofText l).placeFrom place)).toText
    ((Reference.ofText l).queryFrom (query.map (percentEncode (isQueryEscaped true))))

theorem head?_textFrom (h : place ≠ []) : (textFrom place query l).head? = some '/' :=
  Uri.head?_joinQuery (head?_toText (Reference.placeFrom_ne_nil h))

/-- A location without a scheme is a path unless it is written with two slashes at its front. -/
theorem isPathReference_of_splitScheme (h : splitScheme (Reference.ofText l).body = none) :
    isPathReference l = !decide (Reference.OpensAuthority l) := by
  have hparse : Address.parse l = .error .relativeWithoutBase := by
    unfold Address.parse Address.resolve
    simp only [h]
  unfold isPathReference
  rw [hparse, Bool.and_true]
  congr 1
  clear h hparse
  rw [Bool.eq_iff_iff, decide_eq_true_iff]
  rcases l with _ | ⟨c, _ | ⟨d, rest⟩⟩
  · simp [Reference.not_opensAuthority_of_length_lt]
  · simp [Reference.not_opensAuthority_of_length_lt]
  · simp [Reference.opensAuthority_cons_cons]

theorem isPathReference_of_isPathOnly (hl : (Reference.ofText l).IsPathOnly) :
    isPathReference l = true := by
  rw [isPathReference_of_splitScheme hl.scheme]
  simpa using mt Reference.opensAuthority_body hl.authority

theorem resolveLocation_origin
    (hbase : baseAddress? (.origin path query) = some base) (hat : IsAt base place query)
    (hl : (Reference.ofText l).IsPathOnly) :
    resolveLocation (.origin path query) l = (Uri.parse (textFrom place query l)).toOption := by
  have hjoin := Address.join_of_isPathOnly (.inl hat.scheme) hat.path hl
  have hhost : hasHost (.origin path query) = false := rfl
  rw [hat.query] at hjoin
  unfold resolveLocation textFrom
  simp only [hbase, hjoin, Option.bind_eq_bind, Option.bind_some, Except.toOption, hat.scheme,
    hhost, isPathReference_of_isPathOnly hl, BEq.rfl, Bool.true_or, Bool.not_false, Bool.and_self,
    if_true]

theorem resolveLocation_absolute {host : Host} (hv : hasHost v = true)
    (hbase : baseAddress? v = some base) (hsite : base.site = some { host := some host })
    (hat : IsAt base place query) (hl : (Reference.ofText l).IsPathOnly) :
    resolveLocation v l
      = (Uri.parse ("http://".toList ++ (host.toText ++ textFrom place query l))).toOption := by
  have hjoin := Address.join_of_isPathOnly (.inl hat.scheme) hat.path hl
  rw [hat.query] at hjoin
  have htext : ∀ (p : Web.Path) (q f : Option Text),
      Address.resourceText
          { scheme := "http".toList, site := base.site, path := p, query := q, fragment := f }
        = "http://".toList ++ (host.toText ++ Uri.joinQuery p.toText q) := by
    intro p q f
    simp [Address.resourceText, Address.siteText, hsite, Site.toText, Site.userinfoText,
      Uri.joinQuery]
  unfold resolveLocation textFrom
  simp only [hbase, hjoin, Option.bind_eq_bind, Option.bind_some, Except.toOption, hat.scheme,
    hv, htext, BEq.rfl, Bool.true_or, Bool.not_true, Bool.false_and, Bool.false_eq_true, if_true,
    if_false]

/-! ## Two forms of a request -/

theorem eq_absolute_of_parse (ht : Uri.IsPathTarget path query) (hname : IsHostName name)
    (hv : Uri.parse ("http://".toList ++ (name ++ Uri.joinQuery path query)) = .ok v) :
    v = .absolute "http".toList ⟨name⟩ path query := by
  obtain ⟨path', query', rfl, hrest⟩ :=
    Uri.parse_http (fun c hc => hname.isEnd_eq_false hc) (Uri.head?_joinQuery ht.slash) hv
  have hagain := (Uri.parse_eq_origin_iff.1 hrest).2.2
  rw [Uri.readPathAndQuery_of_isPathTarget ht] at hagain
  cases hagain
  rfl

theorem toText_absolute {scheme : Text} {a : Authority} :
    (Uri.absolute scheme a path query).toText
      = scheme ++ ("://".toList ++ (a.text ++ Uri.joinQuery path query)) := by
  simp [Uri.toText, Uri.scheme?, Uri.authority?, Uri.pathAndQuery, Uri.path, Uri.query?]

/-- The base of an absolute web target. -/
theorem baseAddress?_web {scheme : Text} {a : Authority} (hscheme : Uri.IsWebScheme scheme)
    (hu : Uri.IsSiteTarget a path query) :
    baseAddress? (.absolute scheme a path query)
      = ((readSite scheme a.text true).map fun (site, start) =>
        { scheme := scheme
          site := some site
          path := .segments (walk [] (pathSegments true (start ++ path)))
          query := query.map (percentEncode (isQueryEscaped true)) }).toOption := by
  unfold baseAddress?
  rw [if_pos (by rfl), toText_absolute, Address.parse_web hscheme hu.named
    (Authority.isAuthorityChar_of_check hu.checked) hu.target]

theorem baseAddress?_absolute (ht : Uri.IsPathTarget path query) (hname : IsHostName name)
    (hbase : baseAddress? (.absolute "http".toList ⟨name⟩ path query) = some base) :
    ∃ host, Host.parse name = .ok host ∧ base.site = some { host := some host } ∧
      IsAt base (placeOf path) query := by
  unfold baseAddress? at hbase
  rw [if_pos (by rfl), toText_absolute] at hbase
  change (Address.parse ("http://".toList ++ (name ++ Uri.joinQuery path query))).toOption
    = some base at hbase
  rw [Address.parse_http hname ht] at hbase
  cases hhost : Host.parse name with
  | error e =>
    rw [hhost] at hbase
    cases hbase
  | ok host =>
    rw [hhost] at hbase
    cases hbase
    exact ⟨host, rfl, rfl, rfl, rfl, rfl⟩

/-- The path and query to which a path reference leads from the absolute form are the ones to
which it leads from the place of the path. -/
theorem parse_textFrom_of_resolveLocation (ht : Uri.IsPathTarget path query)
    (hname : IsHostName name) (hl : (Reference.ofText l).IsPathOnly)
    (hu : resolveLocation (.absolute "http".toList ⟨name⟩ path query) l = some u) :
    Uri.parse (textFrom (placeOf path) query l) = .ok (.origin u.path u.query?) := by
  cases hbase : baseAddress? (.absolute "http".toList ⟨name⟩ path query) with
  | none =>
    rw [resolveLocation, hbase] at hu
    cases hu
  | some base =>
    obtain ⟨host, hhost, hsite, hat⟩ := baseAddress?_absolute ht hname hbase
    rw [resolveLocation_absolute rfl hbase hsite hat hl] at hu
    have hread : Site.IsRead { host := some host } host :=
      ⟨⟨[], rfl⟩, fun p hp => (nomatch hp), rfl, name, hhost⟩
    have hplain : ∀ c ∈ host.toText, Authority.isEnd c = false := by
      simpa [Site.toText, Site.userinfoText] using hread.isEnd_eq_false
    have hslash : (textFrom (placeOf path) query l).head? = some '/' :=
      head?_textFrom placeOf_ne_nil
    cases hparse : Uri.parse ("http://".toList
        ++ (host.toText ++ textFrom (placeOf path) query l)) with
    | error e =>
      rw [hparse] at hu
      cases hu
    | ok u' =>
      rw [hparse] at hu
      cases hu
      obtain ⟨path', query', rfl, hrest⟩ := Uri.parse_http hplain hslash hparse
      exact hrest

/-- One target leads to the paths that another one leads to: wherever the `Location` of a response
is a path reference and the second target is redirected somewhere, the first is redirected to the
path and query of it. -/
def LeadsAlike (p v : Uri) : Prop :=
  ∀ (request : Descriptor) (head : ResponseHead) (l : Text) (u : Uri),
    location? head = some l → (Reference.ofText l).IsPathOnly →
    byLocation { request with uri := v } head = some u →
    byLocation { request with uri := p } head = some (.origin u.path u.query?)

/-- The base of a target that is a path is at the place that the path spells. -/
def HasOwnPlace (path : Text) (query : Option Text) : Prop :=
  (baseAddress? (.origin path query)).map Address.segments = some (placeOf path)

theorem byLocation_eq {d : Descriptor} {head : ResponseHead} (h : location? head = some l) :
    byLocation d head = resolveLocation d.uri l := by
  rw [byLocation, h]
  rfl

theorem segments_of_isAt (h : IsAt base place query) : base.segments = place := by
  rw [Address.segments, h.path]

theorem hasOwnPlace_of_plain (ht : Uri.IsPathTarget path query)
    (hplain : ¬ Reference.OpensAuthority path) : HasOwnPlace path query := by
  obtain ⟨base, hbase, hat⟩ := baseAddress?_origin_of_plain ht hplain
  rw [HasOwnPlace, hbase, Option.map_some, segments_of_isAt hat]

theorem leadsAlike_of_hasOwnPlace (ht : Uri.IsPathTarget path query) (hname : IsHostName name)
    (hplace : HasOwnPlace path query) :
    LeadsAlike (.origin path query) (.absolute "http".toList ⟨name⟩ path query) := by
  intro request head l u hlocation hl hu
  rw [byLocation_eq hlocation] at hu ⊢
  obtain ⟨base, hbase, hsegments⟩ := Option.map_eq_some_iff.1 hplace
  obtain ⟨rest, hat⟩ := isAt_of_baseAddress?_origin ht hbase
  rw [← segments_of_isAt hat, hsegments] at hat
  rw [resolveLocation_origin hbase hat hl, parse_textFrom_of_resolveLocation ht hname hl hu]
  rfl

/-- The location that leads nowhere else but changes the query to an empty one. -/
def here : Text := ['?']

theorem isPathOnly_here : (Reference.ofText here).IsPathOnly :=
  ⟨rfl, by decide⟩

theorem path_of_parse_here {p : Text} {q : Option Text} (hplace : ∀ s ∈ place, IsName s)
    (h : Uri.parse (textFrom place query here) = .ok (.origin p q)) :
    p = (Path.segments place).toText := by
  change Uri.parse (Uri.joinQuery (Path.segments place).toText (some [])) = _ at h
  have hread := (Uri.parse_eq_origin_iff.1 h).2.2
  rw [Uri.readPathAndQuery_joinQuery (not_mem_toText hplace) (by simp)] at hread
  split at hread
  · cases hread
    rfl
  · cases hread

/-- A redirect to a location. -/
def redirectTo (location : FieldValue) : ResponseHead :=
  { status := ⟨302⟩, fields := Fields.empty.append .location location }

theorem hasOwnPlace_of_leadsAlike (ht : Uri.IsPathTarget path query) (hname : IsHostName name)
    (hu : resolveLocation (.absolute "http".toList ⟨name⟩ path query) here = some u)
    (h : LeadsAlike (.origin path query) (.absolute "http".toList ⟨name⟩ path query)) :
    HasOwnPlace path query := by
  have hlocation : location? (redirectTo { octets := Octets.ofString "?" }) = some here := by decide
  have hp : resolveLocation (.origin path query) here = some (.origin u.path u.query?) := by
    have hp := h {} (redirectTo { octets := Octets.ofString "?" }) here u hlocation isPathOnly_here
    rw [byLocation_eq hlocation, byLocation_eq hlocation] at hp
    exact hp hu
  cases hbase : baseAddress? (.origin path query) with
  | none =>
    rw [resolveLocation, hbase] at hp
    cases hp
  | some base =>
    obtain ⟨rest, hat⟩ := isAt_of_baseAddress?_origin ht hbase
    rw [resolveLocation_origin hbase hat isPathOnly_here] at hp
    cases hparse : Uri.parse (textFrom (placeOf rest) query here) with
    | error e =>
      rw [hparse] at hp
      cases hp
    | ok target =>
      rw [hparse] at hp
      cases hp
      have hrest := path_of_parse_here isName_of_mem_placeOf hparse
      have hpath := path_of_parse_here isName_of_mem_placeOf
        (parse_textFrom_of_resolveLocation ht hname isPathOnly_here hu)
      have hplace : placeOf rest = placeOf path :=
        eq_of_toText_eq (fun s hs => (isName_of_mem_placeOf s hs).slash)
          (fun s hs => (isName_of_mem_placeOf s hs).slash) (hrest.symm.trans hpath)
      rw [HasOwnPlace, hbase, Option.map_some, segments_of_isAt hat, hplace]

/-- A request target that is a path leads every path reference to the path and query to which the
absolute form of the same request leads it, unless the path opens with two slashes. In general,
where the absolute form can be redirected to itself at all, a path does so just if the base that it
is given is at the place that it spells. -/
theorem leadsAlike_absolute {t : Text} (hp : Uri.parse t = .ok (.origin path query))
    (hname : IsHostName name)
    (hv : Uri.parse ("http://".toList ++ (name ++ (Uri.origin path query).toText)) = .ok v) :
    (¬ Reference.OpensAuthority path → LeadsAlike (.origin path query) v) ∧
    ((resolveLocation v here).isSome →
      (LeadsAlike (.origin path query) v ↔ HasOwnPlace path query)) := by
  have ht := Uri.isPathTarget_of_parse hp
  obtain rfl := eq_absolute_of_parse ht hname hv
  refine ⟨?_, ?_⟩
  · intro hplain
    exact leadsAlike_of_hasOwnPlace ht hname (hasOwnPlace_of_plain ht hplain)
  · intro hsome
    obtain ⟨u, hu⟩ := Option.isSome_iff_exists.1 hsome
    exact ⟨hasOwnPlace_of_leadsAlike ht hname hu, leadsAlike_of_hasOwnPlace ht hname⟩

theorem leadsAlike_page :
    LeadsAlike (.origin "/dir/page".toList (some "q=1".toList))
      (.absolute "http".toList ⟨"a.test".toList⟩ "/dir/page".toList (some "q=1".toList)) ∧
    HasOwnPlace "/dir/page".toList (some "q=1".toList) := by
  have hname : IsHostName "a.test".toList := ⟨by decide, by decide⟩
  have hparse : Uri.parse "/dir/page?q=1".toList
      = .ok (.origin "/dir/page".toList (some "q=1".toList)) := rfl
  have hboth := leadsAlike_absolute hparse hname rfl
  have halike := hboth.1 (by decide)
  exact ⟨halike, (hboth.2 (by decide +kernel)).1 halike⟩

/-- A path that opens with two slashes loses its first name. -/
theorem not_leadsAlike_twoSlashes :
    Uri.parse "//net.test/x".toList = .ok (.origin "//net.test/x".toList none) ∧
    IsHostName "a".toList ∧
    Uri.parse "http://a//net.test/x".toList
      = .ok (.absolute "http".toList ⟨"a".toList⟩ "//net.test/x".toList none) ∧
    ¬ LeadsAlike (.origin "//net.test/x".toList none)
      (.absolute "http".toList ⟨"a".toList⟩ "//net.test/x".toList none) := by
  refine ⟨rfl, ⟨by decide, by decide⟩, rfl, ?_⟩
  intro h
  have hn := h {} (redirectTo { octets := Octets.ofString "n" }) "n".toList
    (.absolute "http".toList ⟨"a".toList⟩ "//net.test/n".toList none) (by decide)
    ⟨by decide, by decide⟩ (by decide +kernel)
  have hlost : byLocation { uri := .origin "//net.test/x".toList none }
      (redirectTo { octets := Octets.ofString "n" }) = some (.origin "/n".toList none) := by
    decide +kernel
  rw [hlost] at hn
  cases hn

end Courier.Redirect
