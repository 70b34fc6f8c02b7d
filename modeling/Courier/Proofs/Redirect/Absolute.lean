import Courier.Proofs.Redirect.Authority

/-!
# Absolute locations

A location that stands alone says where it leads, whatever the request was for. The request has its
part in it even so: the target of the request is made a web address before the location is looked
at, and where that fails the redirect is given up. It fails on a target with an authority that no
web address can have, and on a path that is taken for such an authority.
-/

namespace Courier.Redirect

open Web
open Uri (IsWebScheme)

variable {l t : Text} {u : Uri} {base : Address}

/-! ## Locations that stand alone -/

/-- A location with a web scheme and two slashes after the colon. -/
def StandsAlone (l : Text) : Prop :=
  ∃ scheme rest, IsWebScheme scheme ∧
    splitScheme (Reference.ofText l).body = some (scheme, rest) ∧ Reference.OpensAuthority rest

/-- Where a location leads that is read on its own. -/
def targetOf (l : Text) : Option Uri :=
  (Address.parse l).toOption.bind fun a => (Uri.parse a.resourceText).toOption

/-- A request target on which a location can be joined. -/
def HasBase (u : Uri) : Prop :=
  (baseAddress? u).isSome = true

instance : Decidable (HasBase u) :=
  inferInstanceAs (Decidable (_ = _))

theorem join_of_standsAlone (h : StandsAlone l) : base.join l = Address.parse l := by
  obtain ⟨scheme, rest, hscheme, hsplits, hopens⟩ := h
  rw [Address.join_of_splitScheme hsplits, Address.parse_of_splitScheme hsplits,
    Address.ofSchemeBody_of_isWebScheme hscheme (.inl hopens),
    Address.ofSchemeBody_of_isWebScheme hscheme (.inr rfl)]

theorem isWebScheme_of_standsAlone {a : Address} (h : StandsAlone l)
    (ha : Address.parse l = .ok a) : IsWebScheme a.scheme := by
  obtain ⟨scheme, rest, hscheme, hsplits, -⟩ := h
  rw [Address.parse_of_splitScheme hsplits] at ha
  rwa [Address.scheme_of_ofSchemeBody rfl ha]

theorem resolveLocation_of_not_hasBase (h : ¬ HasBase u) : resolveLocation u l = none := by
  have hbase : baseAddress? u = none := by simpa [HasBase] using h
  rw [resolveLocation, hbase]
  rfl

/-- Where a base can be made of the request target, it does not matter which one. -/
theorem resolveLocation_of_standsAlone (h : StandsAlone l) (hu : HasBase u) :
    resolveLocation u l = targetOf l := by
  have hpath : isPathReference l = false := by
    obtain ⟨scheme, rest, hscheme, hsplits, -⟩ := h
    exact isPathReference_of_isWebScheme hscheme hsplits
  obtain ⟨base, hbase⟩ := Option.isSome_iff_exists.1 hu
  unfold resolveLocation targetOf
  rw [hbase, Option.bind_eq_bind, Option.bind_some, join_of_standsAlone h]
  cases ha : Address.parse l with
  | error e => rfl
  | ok a =>
    have hweb : (a.scheme == "http".toList || a.scheme == "https".toList) = true := by
      simpa [IsWebScheme] using isWebScheme_of_standsAlone h ha
    simp only [Except.toOption, Option.bind_some, hweb, if_true, hpath,
      Bool.and_false, Bool.false_eq_true, if_false]

/-! ## Targets with a base -/

/-- A request target that names no site, or one of the web that can be read. -/
def HasPlainSite : Uri → Prop
  | .origin path _ => ¬ Reference.OpensAuthority path
  | .asterisk | .authority _ => True
  | .absolute scheme name _ _ =>
    IsWebScheme scheme ∧ ∃ site, readSite scheme name.text true = .ok site

theorem hasBase_of_hasPlainSite (hu : Uri.parse t = .ok u) (h : HasPlainSite u) : HasBase u := by
  unfold HasBase
  cases u with
  | origin path query =>
    obtain ⟨base, hbase, -⟩ := baseAddress?_origin_of_plain (Uri.isPathTarget_of_parse hu) h
    rw [hbase]
    rfl
  | asterisk => rfl
  | authority name => rfl
  | absolute scheme name path query =>
    obtain ⟨hscheme, ⟨site, start⟩, hsite⟩ := h
    rw [baseAddress?_web hscheme (Uri.isSiteTarget_of_parse hu), hsite]
    rfl

/-! ## Two requests -/

/-- **Absolute locations.** A location that stands alone leads two requests to the same target just
if a base can be made of both request targets or of neither, unless it leads nowhere on its own. A
base can be made of every target that names no site and of every web target whose site can be read,
and then the location leads where it leads on its own. -/
theorem byLocation_eq_iff_of_standsAlone {d e : Descriptor} {head : ResponseHead}
    (hd : Uri.parse t = .ok d.uri) (hlocation : location? head = some l) (h : StandsAlone l) :
    (byLocation d head = byLocation e head ↔
      (HasBase d.uri ↔ HasBase e.uri) ∨ targetOf l = none) ∧
    (HasPlainSite d.uri → byLocation d head = targetOf l) := by
  rw [byLocation_eq hlocation, byLocation_eq hlocation]
  refine ⟨?_, fun hplain =>
    resolveLocation_of_standsAlone h (hasBase_of_hasPlainSite hd hplain)⟩
  by_cases hd : HasBase d.uri
  · rw [resolveLocation_of_standsAlone h hd]
    by_cases he : HasBase e.uri
    · rw [resolveLocation_of_standsAlone h he]
      simp [hd, he]
    · rw [resolveLocation_of_not_hasBase he]
      simp [hd, he]
  · rw [resolveLocation_of_not_hasBase hd]
    by_cases he : HasBase e.uri
    · rw [resolveLocation_of_standsAlone h he, eq_comm]
      simp [hd, he]
    · rw [resolveLocation_of_not_hasBase he]
      simp [hd, he]

/-- A redirect to `http://b.test/y`. -/
def toOther : ResponseHead :=
  redirectTo { octets := Octets.ofString "http://b.test/y" }

theorem standsAlone_other : location? toOther = some "http://b.test/y".toList ∧
    StandsAlone "http://b.test/y".toList := by
  refine ⟨by decide, "http".toList, "//b.test/y".toList, .inl rfl, ?_, ?_⟩ <;> decide

/-- A request for a page of the peer that is asked. -/
def page : Descriptor :=
  { uri := .origin "/x".toList none }

/-- A request for a page of a site with a port that no web address can have. -/
def highPort : Descriptor :=
  { uri := .absolute "http".toList ⟨"a.test:99999".toList⟩ "/x".toList none }

theorem byLocation_eq_iff_of_standsAlone_page :
    Uri.parse "/x".toList = .ok page.uri ∧ HasPlainSite page.uri ∧
      byLocation page toOther = byLocation { page with uri := .asterisk } toOther ∧
      byLocation page toOther
        = some (.absolute "http".toList ⟨"b.test".toList⟩ "/y".toList none) := by
  obtain ⟨hlocation, halone⟩ := standsAlone_other
  have hparse : Uri.parse "/x".toList = .ok page.uri := rfl
  have hplain : HasPlainSite page.uri := show ¬ Reference.OpensAuthority "/x".toList by decide
  obtain ⟨hiff, htarget⟩ := byLocation_eq_iff_of_standsAlone (e := { page with uri := .asterisk })
    hparse hlocation halone
  refine ⟨hparse, hplain, hiff.2 (.inl (iff_of_true ?_ ?_)), ?_⟩
  · exact hasBase_of_hasPlainSite hparse hplain
  · rfl
  · rw [htarget hplain]
    decide +kernel

/-- From a target with a port that no web address can have, a location that stands alone is not
followed. -/
theorem not_byLocation_eq_highPort :
    location? toOther = some "http://b.test/y".toList ∧ StandsAlone "http://b.test/y".toList ∧
    Uri.parse "http://a.test:99999/x".toList = .ok highPort.uri ∧
    Uri.parse "/x".toList = .ok page.uri ∧
    byLocation highPort toOther = none ∧ byLocation highPort toOther ≠ byLocation page toOther := by
  have hnone : byLocation highPort toOther = none := by decide +kernel
  refine ⟨standsAlone_other.1, standsAlone_other.2, rfl, rfl, hnone, ?_⟩
  rw [hnone]
  decide +kernel

end Courier.Redirect
