import Courier.Proofs.Uri
import Courier.Proofs.Web.Host
import Courier.Proofs.Web.Paths

/-!
# Path references

A reference with neither scheme nor authority moves a web address to another place on the same
site: where it leads depends on the place and the query of the address alone.
-/

namespace Courier.Web

open Uri (IsWebScheme)

variable {t body path : Text} {query : Option Text} {place : List Text} {base : Address}

/-! ## Web schemes -/

theorem isSpecial_of_isWebScheme {scheme : Text} (h : IsWebScheme scheme) :
    isSpecial scheme = true := by
  rcases h with rfl | rfl
  · decide
  · decide

theorem ne_fileScheme_of_isWebScheme {scheme : Text} (h : IsWebScheme scheme) :
    (scheme == fileScheme) = false := by
  rcases h with rfl | rfl
  · decide
  · decide

theorem not_isWebScheme_fileScheme : ¬ IsWebScheme fileScheme := by
  intro h
  have hfile := ne_fileScheme_of_isWebScheme h
  rw [BEq.rfl] at hfile
  cases hfile

/-- A query is escaped alike under both web schemes. -/
theorem Address.queryOf_of_isWebScheme {scheme : Text} {r : Reference} (h : IsWebScheme scheme) :
    queryOf scheme r = queryOf "http".toList r := by
  unfold queryOf
  rw [isSpecial_of_isWebScheme h, isSpecial_of_isWebScheme (.inl rfl)]

/-! ## Reading references -/

theorem isIgnored_of_space_lt {c : Char} (h : ' ' < c) : isIgnored c = false := by
  have hne : ∀ d : Char, ¬ ' ' < d → (c == d) = false := by
    intro d hd
    rw [beq_eq_false_iff_ne]
    rintro rfl
    exact hd h
  simp only [isIgnored, Bool.or_eq_false_iff]
  exact ⟨⟨hne _ (by decide), hne _ (by decide)⟩, hne _ (by decide)⟩

theorem clean_eq_self (h : ∀ c ∈ t, ' ' < c) : clean t = t := by
  rw [clean, List.filter_eq_self]
  intro c hc
  rw [isIgnored_of_space_lt (h c hc)]
  rfl

namespace Reference

/-- A text without blanks and fragment is cut at its query only. -/
theorem ofText_joinQuery (hbody : ∀ c ∈ body, ' ' < c ∧ c ≠ '#' ∧ c ≠ '?')
    (hquery : ∀ q ∈ query, ∀ c ∈ q, ' ' < c ∧ c ≠ '#') :
    ofText (Uri.joinQuery body query) = ⟨body, query, none⟩ := by
  have hwhole : ∀ c ∈ Uri.joinQuery body query, ' ' < c ∧ c ≠ '#' := by
    intro c hc
    unfold Uri.joinQuery at hc
    rcases List.mem_append.1 hc with hc | hc
    · exact ⟨(hbody c hc).1, (hbody c hc).2.1⟩
    · cases query with
      | none => cases hc
      | some q =>
        rcases List.mem_cons.1 hc with rfl | hc
        · decide
        · exact hquery q rfl c hc
  have htrim : Text.trim (· ≤ ' ') (Uri.joinQuery body query) = Uri.joinQuery body query := by
    apply Text.trim_eq_self
    intro c hc
    simpa using (hwhole c hc).1
  have hfront : Text.cutAt '#' (Uri.joinQuery body query) = (Uri.joinQuery body query, none) :=
    Text.cutAt_eq_self fun hc => (hwhole _ hc).2 rfl
  have hcut : Text.cutAt '?' (Uri.joinQuery body query) = (body, query) :=
    Uri.cutAt_joinQuery fun hc => (hbody _ hc).2.2 rfl
  have hclean : query.map clean = query := by
    cases query with
    | none => rfl
    | some q => exact congrArg some (clean_eq_self fun c hc => (hquery q rfl c hc).1)
  simp only [ofText, htrim, hfront, hcut, hclean, Option.map_none]

/-! ## Path references -/

/-- A text that starts with the two slashes of an authority. -/
def OpensAuthority (t : Text) : Prop :=
  2 ≤ (t.takeWhile (isSlash true)).length

instance : Decidable (OpensAuthority t) :=
  inferInstanceAs (Decidable (2 ≤ _))

/-- What is read after the slashes of an authority where no scheme stands before them. -/
def afterSlashes (body : Text) : Text :=
  (Text.after? "//".toList body).getD (body.drop (body.takeWhile (isSlash true)).length)

theorem body_ofText :
    (ofText t).body = clean (((t.trim (· ≤ ' ')).takeWhile (!· == '#')).takeWhile (!· == '?')) := by
  rw [← Text.fst_cutAt, ← Text.fst_cutAt]
  rfl

theorem not_opensAuthority_of_length_lt (h : t.length < 2) : ¬ OpensAuthority t := by
  have hle := (List.takeWhile_sublist (isSlash true) (l := t)).length_le
  unfold OpensAuthority
  omega

theorem opensAuthority_cons_cons {a b : Char} {rest : Text} :
    OpensAuthority (a :: b :: rest) ↔ isSlash true a = true ∧ isSlash true b = true := by
  unfold OpensAuthority
  by_cases ha : isSlash true a = true
  · by_cases hb : isSlash true b = true
    · simp [ha, hb]
    · simp [ha, hb]
  · simp [ha]

/-- Two slashes at the front of a text remain at the front of its body. -/
theorem opensAuthority_body (h : OpensAuthority t) : OpensAuthority (ofText t).body := by
  have hplain : ∀ c, isSlash true c = true →
      ' ' < c ∧ (c == '#') = false ∧ (c == '?') = false ∧ isIgnored c = false := by
    intro c hc
    simp only [isSlash, Bool.true_and, Bool.or_eq_true, beq_iff_eq] at hc
    rcases hc with rfl | rfl
    all_goals decide
  rcases t with _ | ⟨a, _ | ⟨b, rest⟩⟩
  · exact absurd h (not_opensAuthority_of_length_lt (by simp))
  · exact absurd h (not_opensAuthority_of_length_lt (by simp))
  obtain ⟨ha, hb⟩ := opensAuthority_cons_cons.1 h
  obtain ⟨ha₀, ha₁, ha₂, ha₃⟩ := hplain a ha
  obtain ⟨hb₀, hb₁, hb₂, hb₃⟩ := hplain b hb
  obtain ⟨more, hmore⟩ : ∃ more, Text.trim (· ≤ ' ') ([a, b] ++ rest) = [a, b] ++ more := by
    apply Text.trim_append
    simpa using ⟨ha₀, hb₀⟩
  rw [body_ofText, show a :: b :: rest = [a, b] ++ rest from rfl, hmore]
  simp [OpensAuthority, clean, ha, ha₁, ha₂, ha₃, hb, hb₁, hb₂, hb₃]

/-- A reference with neither scheme nor authority. -/
structure IsPathOnly (r : Reference) : Prop where
  scheme : splitScheme r.body = none
  authority : ¬ OpensAuthority r.body

/-- Where a path reference leads from a place. -/
def placeFrom (r : Reference) (place : List Text) : List Text :=
  if r.body.isEmpty then place
  else if r.body.head?.any (isSlash true) then walk [] (pathSegments true r.body)
  else walk place.dropLast (pathSegments true r.body)

/-- The query that a path reference leads to from a place with a query. -/
def queryFrom (r : Reference) (query : Option Text) : Option Text :=
  if r.body.isEmpty then (Address.queryOf "http".toList r).orElse fun _ => query
  else Address.queryOf "http".toList r

theorem placeFrom_ne_nil {r : Reference} (h : place ≠ []) : r.placeFrom place ≠ [] := by
  unfold placeFrom
  split
  · exact h
  · split
    · exact walk_ne_nil pathSegments_ne_nil
    · exact walk_ne_nil pathSegments_ne_nil

end Reference

namespace Address

open Reference

theorem ofRelativeBody_of_isPathOnly {r : Reference} (hscheme : IsWebScheme base.scheme)
    (hpath : base.path = .segments place) (hr : ¬ OpensAuthority r.body) :
    ofRelativeBody base r.body r = .ok { base with
      path := .segments (r.placeFrom place)
      query := r.queryFrom base.query
      fragment := fragmentOf r } := by
  have hspecial := isSpecial_of_isWebScheme hscheme
  have hquery := queryOf_of_isWebScheme (r := r) hscheme
  have hsegments : base.segments = place := by
    rw [segments, hpath]
  unfold OpensAuthority at hr
  unfold ofRelativeBody placeFrom queryFrom
  cases hbody : r.body with
  | nil => simp [← hpath, hquery]
  | cons c rest =>
    rw [hbody] at hr
    simp only [hspecial, List.isEmpty_cons, Bool.false_eq_true, if_false, if_neg hr]
    by_cases hc : isSlash true c = true
    · have hone : (((c :: rest).takeWhile (isSlash true)).length == 1) = true := by
        rw [List.takeWhile_cons_of_pos hc, List.length_cons] at hr ⊢
        rw [beq_iff_eq]
        omega
      rw [if_pos hone]
      simp [hc, withParts, hquery]
    · have hnone : (((c :: rest).takeWhile (isSlash true)).length == 1) = false := by
        rw [List.takeWhile_cons_of_neg hc]
        rfl
      rw [hnone]
      simp [hc, withParts, hquery, hsegments]

theorem ofRelativeBody_of_opensAuthority {r : Reference} (hscheme : base.scheme = "http".toList)
    (hr : OpensAuthority r.body) :
    ofRelativeBody base r.body r = ofAuthority "http".toList (afterSlashes r.body) r := by
  have hspecial : isSpecial "http".toList = true := by decide
  have hbody : ¬ r.body.isEmpty = true := by
    intro hempty
    rw [List.isEmpty_iff.1 hempty] at hr
    exact absurd hr (by decide)
  unfold OpensAuthority at hr
  unfold ofRelativeBody afterSlashes
  simp only [hscheme, hspecial, if_neg hbody, if_pos hr]

/-- What a reference without a scheme leads to from a web address. -/
theorem join_eq_ofRelativeBody (hscheme : IsWebScheme base.scheme)
    (hpath : base.path = .segments place) (hr : splitScheme (ofText t).body = none) :
    base.join t = ofRelativeBody base (ofText t).body (ofText t) := by
  have hrootless : base.isRootless = false := by
    rw [isRootless, hpath]
  have hfile := ne_fileScheme_of_isWebScheme hscheme
  unfold join resolve
  simp only [hr, hrootless, hfile]
  split
  · next hsame =>
    simp only [Bool.and_eq_true, Option.isNone_iff_eq_none] at hsame
    simp [ofRelativeBody, queryOf, hsame.1.1, hsame.1.2]
  · rfl

/-- A path reference keeps scheme and site of a web address. -/
theorem join_of_isPathOnly (hscheme : IsWebScheme base.scheme)
    (hpath : base.path = .segments place) (hr : (ofText t).IsPathOnly) :
    base.join t = .ok { base with
      path := .segments ((ofText t).placeFrom place)
      query := (ofText t).queryFrom base.query
      fragment := fragmentOf (ofText t) } := by
  rw [join_eq_ofRelativeBody hscheme hpath hr.scheme]
  exact ofRelativeBody_of_isPathOnly hscheme hpath hr.authority

/-! ## Authorities -/

theorem splitUserinfo_eq_self {authority : Text} (h : '@' ∉ authority) :
    splitUserinfo authority = (none, authority) := by
  unfold splitUserinfo
  rw [if_neg]
  simpa using h

theorem splitPort_eq_self {host : Text} (h : ':' ∉ host) (inside : Bool) :
    splitPort inside host = (host, none) := by
  induction host generalizing inside with
  | nil => rfl
  | cons c rest ih =>
    have hc : (c == ':') = false := by
      rw [beq_eq_false_iff_ne]
      rintro rfl
      exact h List.mem_cons_self
    have hrest : ':' ∉ rest := fun hmem => h (List.mem_cons_of_mem c hmem)
    simp [splitPort, hc, ih hrest]

theorem exists_of_ofAuthority {scheme rest : Text} {r : Reference} {a : Address}
    (h : ofAuthority scheme rest r = .ok a) :
    ∃ authority ends site start path, readSite scheme authority ends = .ok (site, start) ∧
      a = withParts scheme (some site) (readPath (isSpecial scheme) path) r := by
  unfold ofAuthority at h
  obtain ⟨⟨site, start⟩, hsite, h⟩ := bind_eq_ok.1 h
  cases h
  exact ⟨_, _, _, _, _, hsite, rfl⟩

theorem readPath_true (path : Text) :
    readPath true path = .segments (walk [] (pathSegments true path)) := by
  simp [readPath]

/-- An authority of a special scheme is followed by a path of segments. -/
theorem eq_of_ofAuthority {scheme rest : Text} {r : Reference} {a : Address}
    (hspecial : isSpecial scheme = true) (h : ofAuthority scheme rest r = .ok a) :
    ∃ site path, a = withParts scheme site (.segments (walk [] (pathSegments true path))) r := by
  obtain ⟨_, _, site, _, path, -, rfl⟩ := exists_of_ofAuthority h
  rw [hspecial, readPath_true]
  exact ⟨some site, path, rfl⟩

end Address

end Courier.Web
