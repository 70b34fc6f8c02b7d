import Courier.Proofs.Redirect.Host

/-!
# Locations on the same site

A location without a scheme and without an authority leads from a web target to another path on the
same site, and there the request should keep all its headers. Whether a hop leaves the site is told
from the hosts as they are written. The host of the target was read and written again; the host of
the request stands as it came. So the request keeps its headers just where its host was written as
a host that was read is written. That is so of every name of letters and digits that does not end in
a number; it is not so of `127.1`.
-/

namespace Courier.Redirect

open Web
open Uri (IsWebScheme)

variable {scheme path l t : Text} {query : Option Text} {name : Authority} {u : Uri}

/-- An authority whose host is written, up to the case of letters, as the host that it is read
as. -/
def SpellsHost (name : Authority) : Prop :=
  ∃ host, Host.parse name.host = .ok host ∧ name.host.sameLetters host.toText = true

/-- A plain name of a host that is no number is always written so. -/
theorem spellsHost_of_isHostName {host : Host} (h : IsHostName name.host)
    (hnumber : Ipv4.endsInNumber name.host.lower = false)
    (hparse : Host.parse name.host = .ok host) : SpellsHost name := by
  refine ⟨host, hparse, ?_⟩
  rw [Text.sameLetters, h.toText_of_parse hnumber hparse, Text.lower_lower, BEq.rfl]

/-! ## Where a path leads -/

/-- A site with the host and the port of an authority, as they are read under a web scheme. -/
structure IsSiteOf (s : Site) (scheme : Text) (name : Authority) : Prop where
  host : ∃ host, Host.parse name.host = .ok host ∧ s.IsRead host
  port : s.port = name.port?.filter (defaultPort? scheme ≠ some ·)

/-- A path reference leads from a web target to its site, written again. -/
theorem exists_isSiteOf_of_resolveLocation (hscheme : IsWebScheme scheme)
    (hname : Uri.IsSiteTarget name path query) (hl : (Reference.ofText l).IsPathOnly)
    (hu : resolveLocation (.absolute scheme name path query) l = some u) :
    ∃ s path' query', IsSiteOf s scheme name ∧ u = .absolute scheme ⟨s.toText⟩ path' query' := by
  obtain ⟨base, a, hbase, hjoin, -, htarget⟩ := exists_join_of_resolveLocation hu
  rw [baseAddress?_web hscheme hname] at hbase
  cases hsite : readSite scheme name.text true with
  | error e =>
    rw [hsite] at hbase
    cases hbase
  | ok x =>
    obtain ⟨s, start⟩ := x
    rw [hsite] at hbase
    cases hbase
    obtain ⟨-, hport, host, hhost, hparse⟩ := port_of_readSite hscheme hname.checked hsite
    obtain ⟨host', hread⟩ := isRead_of_readSite (isSpecial_of_isWebScheme hscheme) hsite
    cases hhost.symm.trans hread.named
    rw [Address.join_of_isPathOnly hscheme rfl hl] at hjoin
    cases hjoin
    have hplace : (Reference.ofText l).placeFrom (walk [] (pathSegments true (start ++ path)))
        ≠ [] := Reference.placeFrom_ne_nil (walk_ne_nil pathSegments_ne_nil)
    have hhosted : hasHost (.absolute scheme name path query) = true := rfl
    rw [hhosted, Bool.not_true, Bool.false_and, if_neg Bool.false_ne_true,
      Address.resourceText_eq rfl] at htarget
    obtain ⟨path', query', rfl, -⟩ := Uri.parse_web hscheme hread.isEnd_eq_false
      (Uri.head?_joinQuery (head?_toText hplace)) htarget
    exact ⟨s, path', query', ⟨⟨host, hparse, hread⟩, hport⟩, rfl⟩

/-! ## Hosts and ports of a site -/

/-- A port that goes without saying may as well not be said. -/
theorem or_filter_ne (port? default? : Option Nat) :
    (port?.filter (default? ≠ some ·)).or default? = port?.or default? := by
  cases port? with
  | none => rfl
  | some port =>
    rw [Option.filter_some]
    by_cases h : default? = some port
    · simp [h]
    · simp [h]

theorem isCrossHost_of_isSiteOf {s : Site} {path' : Text} {query' : Option Text}
    (hscheme : IsWebScheme scheme) (h : IsSiteOf s scheme name) :
    isCrossHost (.absolute scheme name path query) (.absolute scheme ⟨s.toText⟩ path' query')
      = false ↔ SpellsHost name := by
  obtain ⟨host, hparse, hread⟩ := h.host
  have hsmall : ∀ n ∈ s.port, n < 65536 := by
    intro n hn
    rw [h.port] at hn
    exact name.port?_lt n (Option.mem_filter_iff.1 hn).1
  have hport : effectivePort? (.absolute scheme name path query) =
      effectivePort? (.absolute scheme ⟨s.toText⟩ path' query') := by
    rw [effectivePort?_absolute hscheme, effectivePort?_absolute hscheme,
      hread.port?_toText hsmall, h.port, or_filter_ne]
  have hhost : (Uri.absolute scheme ⟨s.toText⟩ path' query').host? = some host.toText :=
    congrArg some hread.host_toText
  rw [← Bool.not_eq_true, isCrossHost_iff, not_leavesHost_iff (by rw [hhost]; rfl),
    and_iff_left hport, sameHost, hhost]
  constructor
  · exact fun hsame => ⟨host, hparse, hsame⟩
  · rintro ⟨host', hparse', hsame⟩
    cases hparse.symm.trans hparse'
    exact hsame

/-! ## Headers -/

/-- **Headers on the same site.** A location that is only a path leads from a web target to the same
host and port, as far as it leads anywhere, just if the host of the target was written as it is
read, up to the case of letters. Plain names that do not end in a number are. The hop then keeps
the values of every header that does not describe the content. -/
theorem isCrossHost_eq_false_iff_of_isPathOnly {r : Rules} {d : Descriptor} {head : ResponseHead}
    (ht : Uri.parse t = .ok d.uri) (hd : d.uri = .absolute scheme name path query)
    (hscheme : IsWebScheme scheme) (hlocation : location? head = some l)
    (hl : (Reference.ofText l).IsPathOnly) (hu : byLocation d head = some u) :
    (isCrossHost d.uri u = false ↔ SpellsHost name) ∧
    (IsHostName name.host → Ipv4.endsInNumber name.host.lower = false → SpellsHost name) ∧
    (SpellsHost name → ∀ status, ∀ m ∉ contentFields,
      (r.hop d status u).request.fields.getAll m.text = d.fields.getAll m.text) := by
  rw [byLocation_eq hlocation, hd] at hu
  rw [hd] at ht
  obtain ⟨s, path', query', hs, rfl⟩ :=
    exists_isSiteOf_of_resolveLocation hscheme (Uri.isSiteTarget_of_parse ht) hl hu
  have hcross : isCrossHost d.uri (.absolute scheme ⟨s.toText⟩ path' query') = false ↔
      SpellsHost name := by
    rw [hd]
    exact isCrossHost_of_isSiteOf hscheme hs
  refine ⟨hcross, fun hname hnumber => ?_, fun hspells status m hm => ?_⟩
  · obtain ⟨host, hparse, -⟩ := hs.host
    exact spellsHost_of_isHostName hname hnumber hparse
  · exact Rules.getAll_hop_of_stays (hcross.2 hspells) hm

/-- A request with credentials. -/
def login (site : String) : Descriptor :=
  { Rules.signedIn with uri := Rules.web "http" site "/login" }

/-- A redirect to `/y`. -/
def toPath : ResponseHead :=
  redirectTo { octets := Octets.ofString "/y" }

theorem isPathOnly_toPath :
    location? toPath = some "/y".toList ∧ (Reference.ofText "/y".toList).IsPathOnly :=
  ⟨by decide, rfl, by decide⟩

theorem isCrossHost_eq_false_login :
    Uri.parse "http://A.test/login".toList = .ok (login "A.test").uri ∧
    byLocation (login "A.test") toPath = some (Rules.web "http" "a.test" "/y") ∧
    isCrossHost (login "A.test").uri (Rules.web "http" "a.test" "/y") = false ∧
    ∀ m ∉ contentFields, (({} : Rules).hop (login "A.test") ⟨302⟩
      (Rules.web "http" "a.test" "/y")).request.fields.getAll m.text =
        (login "A.test").fields.getAll m.text := by
  have hfound : byLocation (login "A.test") toPath = some (Rules.web "http" "a.test" "/y") := by
    decide +kernel
  have hparse : Uri.parse "http://A.test/login".toList = .ok (login "A.test").uri := rfl
  obtain ⟨hiff, hplain, hkeeps⟩ := isCrossHost_eq_false_iff_of_isPathOnly (r := {}) hparse rfl
    (.inl rfl) isPathOnly_toPath.1 isPathOnly_toPath.2 hfound
  have hspells := hplain ⟨by decide, by decide⟩ (by decide)
  exact ⟨hparse, hfound, hiff.2 hspells, fun m hm => hkeeps hspells ⟨302⟩ m hm⟩

/-- A path leads away from `127.1`, which is read as `127.0.0.1`: the credentials are dropped. -/
theorem not_isCrossHost_eq_false_shortIpv4 :
    Uri.parse "http://127.1/login".toList = .ok (login "127.1").uri ∧
    location? toPath = some "/y".toList ∧ (Reference.ofText "/y".toList).IsPathOnly ∧
    byLocation (login "127.1") toPath = some (Rules.web "http" "127.0.0.1" "/y") ∧
    isCrossHost (login "127.1").uri (Rules.web "http" "127.0.0.1" "/y") = true ∧
    (({} : Rules).hop (login "127.1") ⟨302⟩
      (Rules.web "http" "127.0.0.1" "/y")).request.fields.contains "Authorization".toList = false := by
  refine ⟨rfl, isPathOnly_toPath.1, isPathOnly_toPath.2, ?_, by decide, by decide⟩
  decide +kernel

end Courier.Redirect
