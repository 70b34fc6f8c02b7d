import Courier.Proofs.Redirect.Credentials
import Courier.Proofs.Redirect.Targets

/-!
# The `Host` header along a chain of hops

A hop that leaves the host or the port of its request writes the authority of its target into the
`Host` header; every other hop leaves the header alone. So the header always says what the
authority said where the chain last left a host. That is what the target of a later request means,
too, with two exceptions: the authority was written with its userinfo, or it named no port and the
scheme has changed since, so that the port that goes without saying is another one.
-/

namespace Courier.Redirect

open Web
open Uri (IsWebScheme)

variable {scheme path : Text} {query : Option Text} {name : Authority} {u : Uri}

/-! ## Web targets -/

/-- Whatever a location leads to from a target with a host is a web target, whose authority was
checked. -/
theorem exists_absolute_of_byLocation {d : Descriptor} {head : ResponseHead}
    (hhost : hasHost d.uri = true) (hu : byLocation d head = some u) :
    ∃ scheme name path query, IsWebScheme scheme ∧ u = .absolute scheme name path query ∧
      Authority.check name.text = .ok name := by
  unfold byLocation at hu
  obtain ⟨l, -, hu⟩ := Option.bind_eq_some_iff.1 hu
  have htarget := (isTargetFrom_of_resolveLocation hu).1
  have hparse := htarget.parse
  cases htarget.form with
  | absolute web => exact ⟨_, _, _, _, web, rfl, (Uri.isSiteTarget_of_parse hparse).checked⟩
  | origin _ hostless =>
    rw [hasHost_eq_false_iff.2 hostless] at hhost
    cases hhost

/-! ## What the header names -/

/-- The same target with another authority. -/
def withAuthority (u : Uri) (name : Authority) : Uri :=
  match u with
  | .absolute scheme _ path query => .absolute scheme name path query
  | other => other

/-- A request with exactly one `Host` header, which holds no userinfo and, read under the scheme of
the target, names the host and the port of the target. -/
def NamesTarget (d : Descriptor) : Prop :=
  ∃ text, d.hostText? = some text ∧ '@' ∉ text ∧
    sameHost (withAuthority d.uri ⟨text⟩) d.uri = true ∧
    effectivePort? (withAuthority d.uri ⟨text⟩) = effectivePort? d.uri

/-- A text names the host and the port of an authority. -/
structure Names (text : Text) (name : Authority) : Prop where
  host : Authority.host ⟨text⟩ = name.host
  port : Authority.port? ⟨text⟩ = name.port?

theorem Names.self (name : Authority) : Names name.text name :=
  ⟨rfl, rfl⟩

theorem names_hostAndPort (name : Authority) : Names name.hostAndPort name :=
  ⟨name.host_bare, name.port?_bare⟩

/-- A request for a web target with exactly one `Host` header, which is the host of the target with
its port if it has one. -/
def StartsNamed (d : Descriptor) : Prop :=
  ∃ scheme name path query text, IsWebScheme scheme ∧ d.uri = .absolute scheme name path query ∧
    d.hostText? = some text ∧ '@' ∉ text ∧ Names text name

theorem startsNamed_of_hostAndPort {d : Descriptor} (hscheme : IsWebScheme scheme)
    (huri : d.uri = .absolute scheme name path query)
    (hheader : d.hostText? = some name.hostAndPort) : StartsNamed d :=
  ⟨scheme, name, path, query, _, hscheme, huri, hheader, name.not_mem_hostAndPort,
    names_hostAndPort name⟩

/-! ## Ports that go without saying -/

/-- The port that a web target means: its own, or that of its scheme. -/
theorem effectivePort?_absolute (hscheme : IsWebScheme scheme) :
    effectivePort? (.absolute scheme name path query) = name.port?.or (defaultPort? scheme) := by
  have hport : (Uri.absolute scheme name path query).port? = name.port? := rfl
  rw [effectivePort?, hport]
  cases name.port? with
  | some port => rfl
  | none => rcases hscheme with rfl | rfl <;> rfl

/-- Without a port of their own, two web targets mean the same port just if the schemes are the
same. -/
theorem effectivePort?_absolute_eq_iff {scheme' path' : Text} {query' : Option Text}
    {name' : Authority} (hs : IsWebScheme scheme) (hs' : IsWebScheme scheme')
    (hport : name'.port? = name.port?) :
    effectivePort? (.absolute scheme name path query) =
      effectivePort? (.absolute scheme' name' path' query') ↔
      name.port?.isSome = true ∨ scheme = scheme' := by
  rw [effectivePort?_absolute hs, effectivePort?_absolute hs', hport]
  cases name.port? with
  | some port => simp
  | none => rcases hs with rfl | rfl <;> rcases hs' with rfl | rfl <;> decide

/-! ## Chains -/

/-- The `j`-th request is the last one up to the `k`-th to name another host or port than the one
before it; the first request counts as such. -/
structure LastLeft (requests : List Descriptor) (j k : Nat) : Prop where
  le : j ≤ k
  left : ∀ (i : Nat) (d next : Descriptor), j = i + 1 → requests[i]? = some d →
    requests[i + 1]? = some next → LeavesHost d.uri next.uri
  stays : ∀ (i : Nat) (d next : Descriptor), j ≤ i → i < k → requests[i]? = some d →
    requests[i + 1]? = some next → ¬ LeavesHost d.uri next.uri

namespace LastLeft

variable {requests : List Descriptor} {j k : Nat} {d next : Descriptor}

theorem zero : LastLeft requests 0 0 where
  le := Nat.le_refl 0
  left _ _ _ h := nomatch h
  stays i _ _ _ h := absurd h (Nat.not_lt_zero i)

theorem stay (h : LastLeft requests j k) (hd : requests[k]? = some d)
    (hnext : requests[k + 1]? = some next) (hstays : ¬ LeavesHost d.uri next.uri) :
    LastLeft requests j (k + 1) where
  le := Nat.le_succ_of_le h.le
  left := h.left
  stays i e e' hji hik he he' := by
    rcases Nat.lt_succ_iff_lt_or_eq.1 hik with hik | rfl
    · exact h.stays i e e' hji hik he he'
    · cases hd.symm.trans he
      cases hnext.symm.trans he'
      exact hstays

theorem leave (hd : requests[k]? = some d) (hnext : requests[k + 1]? = some next)
    (hleft : LeavesHost d.uri next.uri) : LastLeft requests (k + 1) (k + 1) where
  le := Nat.le_refl _
  left i e e' hi he he' := by
    obtain rfl : k = i := Nat.succ.inj hi
    cases hd.symm.trans he
    cases hnext.symm.trans he'
    exact hleft
  stays i _ _ hki hik := absurd hki (Nat.not_le_of_lt hik)

end LastLeft

/-! ## Headers that were kept -/

theorem sameHost_congr {v w : Uri} (h : u.host? = v.host?) : sameHost u w = sameHost v w := by
  unfold sameHost
  rw [h]

/-- A target with a host is not left where host and port are the same. -/
theorem not_leavesHost_iff {home target : Uri} (hhost : target.host?.isSome = true) :
    ¬ LeavesHost home target ↔
      sameHost home target = true ∧ effectivePort? home = effectivePort? target := by
  rw [← isCrossHost_iff, isCrossHost, hhost]
  simp

/-- How a request stands to the one that last left a host, the `j`-th of the chain: it has not left
the host of that one, and its header names what the authority named there. The first header has no
userinfo; a later one has that of the authority. -/
structure NamedAt (j : Nat) (name : Authority) (v d : Descriptor) : Prop where
  source : ∃ scheme path query, IsWebScheme scheme ∧ v.uri = .absolute scheme name path query
  target : ∃ scheme name' path query, IsWebScheme scheme ∧ d.uri = .absolute scheme name' path query
  stays : ¬ LeavesHost v.uri d.uri
  header : ∃ text, d.hostText? = some text ∧ Names text name ∧
    ('@' ∈ text ↔ 0 < j ∧ '@' ∈ name.text)

namespace NamedAt

variable {j : Nat} {v d : Descriptor}

theorem hasHost (h : NamedAt j name v d) : hasHost d.uri = true := by
  obtain ⟨scheme, name', path, query, -, hd⟩ := h.target
  rw [hd]
  rfl

/-- The header names the host of the target, whatever it says of the port. -/
theorem sameHost_of_names (h : NamedAt j name v d) {text : Text} (htext : Names text name) :
    sameHost (withAuthority d.uri ⟨text⟩) d.uri = true := by
  obtain ⟨scheme, path, query, -, hv⟩ := h.source
  obtain ⟨scheme', name', path', query', -, hd⟩ := h.target
  have hstays := h.stays
  rw [not_leavesHost_iff (by rw [hd]; rfl)] at hstays
  rw [← hstays.1]
  apply sameHost_congr
  rw [hd, hv]
  exact congrArg some htext.host

/-- The port that the header means is that of the target if it is spelled out, and else if the
scheme has stayed. -/
theorem effectivePort?_of_names (h : NamedAt j name v d) {text : Text} (htext : Names text name) :
    effectivePort? (withAuthority d.uri ⟨text⟩) = effectivePort? d.uri ↔
      v.uri.port?.isSome = true ∨ v.uri.scheme? = d.uri.scheme? := by
  obtain ⟨scheme, path, query, hscheme, hv⟩ := h.source
  obtain ⟨scheme', name', path', query', hscheme', hd⟩ := h.target
  have hstays := h.stays
  rw [not_leavesHost_iff (by rw [hd]; rfl)] at hstays
  rw [← hstays.2, hd, hv, eq_comm]
  refine (effectivePort?_absolute_eq_iff hscheme hscheme' htext.port).trans ?_
  exact or_congr Iff.rfl Option.some_inj.symm

/-- When the header of a request names its target. -/
theorem namesTarget_iff (h : NamedAt j name v d) :
    NamesTarget d ↔ (0 < j → '@' ∉ name.text) ∧
      (v.uri.port?.isSome = true ∨ v.uri.scheme? = d.uri.scheme?) := by
  obtain ⟨text, hheader, htext, hat⟩ := h.header
  have hplain : '@' ∉ text ↔ (0 < j → '@' ∉ name.text) := by
    rw [hat, not_and]
  rw [← h.effectivePort?_of_names htext, ← hplain]
  constructor
  · rintro ⟨other, hother, hno, -, hport⟩
    cases hheader.symm.trans hother
    exact ⟨hno, hport⟩
  · rintro ⟨hno, hport⟩
    exact ⟨text, hheader, hno, h.sameHost_of_names htext, hport⟩

end NamedAt

/-! ## Headers along a chain -/

namespace Rules

variable {r : Rules} {request d v : Descriptor} {turns : List Turn} {turn : Turn} {j k : Nat}

theorem namedAt_of_startsNamed (h : StartsNamed request) :
    ∃ name, NamedAt 0 name request request := by
  obtain ⟨scheme, name, path, query, text, hscheme, huri, hheader, hno, htext⟩ := h
  have hat : '@' ∈ text ↔ 0 < 0 ∧ '@' ∈ name.text :=
    iff_of_false hno fun h => Nat.lt_irrefl 0 h.1
  exact ⟨name, ⟨scheme, path, query, hscheme, huri⟩, ⟨scheme, name, path, query, hscheme, huri⟩,
    not_leavesHost_self request.uri, text, hheader, htext, hat⟩

/-- A hop that stays on its host keeps the header. -/
theorem namedAt_of_stays (h : NamedAt j name v d)
    (hweb : ∃ scheme name path query, IsWebScheme scheme ∧
      turn.target = .absolute scheme name path query)
    (hstays : ¬ LeavesHost d.uri turn.target) :
    NamedAt j name v (r.hop d turn.status turn.target).request := by
  obtain ⟨text, hheader, htext⟩ := h.header
  refine ⟨h.source, hweb, not_leavesHost_trans h.stays hstays, text, ?_, htext⟩
  have hcross : isCrossHost d.uri turn.target = false := by
    rw [← Bool.not_eq_true, isCrossHost_iff]
    exact hstays
  rw [Descriptor.hostText?, getAll_hop_of_stays hcross (by decide), ← Descriptor.hostText?, hheader]

/-- A hop that leaves its host writes the authority of its target. -/
theorem namedAt_of_leaves (h : NamedAt j name v d) {name' : Authority}
    (hscheme : IsWebScheme scheme) (htarget : turn.target = .absolute scheme name' path query)
    (hname : Authority.check name'.text = .ok name') (hleaves : LeavesHost d.uri turn.target) :
    NamedAt (k + 1) name' (r.hop d turn.status turn.target).request
      (r.hop d turn.status turn.target).request := by
  refine ⟨⟨scheme, path, query, hscheme, htarget⟩, ⟨scheme, name', path, query, hscheme, htarget⟩,
    not_leavesHost_self _, name'.text, ?_, Names.self name', by simp⟩
  obtain ⟨value, hvalue, htext⟩ :=
    FieldValue.ofOctets?_ofText (Authority.isVisibleChar_of_check hname)
  obtain ⟨_, hheader, -⟩ := h.header
  obtain ⟨old, hold, -⟩ := Descriptor.getAll_of_hostText? hheader
  have hauthority : turn.target.authority? = some name' := by rw [htarget]; rfl
  rw [Descriptor.hostText?, getAll_host_hop_of_crosses (isCrossHost_iff.2 hleaves)
    (by rw [hold]; exact List.cons_ne_nil _ _) hauthority hvalue]
  exact htext

/-- Along a chain of locations every header stands as it was last written. -/
theorem exists_namedAt (hresolver : r.resolver = byLocation) (hstart : StartsNamed request)
    (hresolves : r.Resolves request turns) (hk : (r.chain request turns)[k]? = some d) :
    ∃ j v name, LastLeft (r.chain request turns) j k ∧ (r.chain request turns)[j]? = some v ∧
      NamedAt j name v d := by
  induction k generalizing d with
  | zero =>
    cases getElem?_chain_zero.symm.trans hk
    obtain ⟨name, hnamed⟩ := namedAt_of_startsNamed hstart
    exact ⟨0, request, name, .zero, getElem?_chain_zero, hnamed⟩
  | succ k ih =>
    obtain ⟨before, turn, hbefore, hturn, rfl⟩ := exists_turn_of_succ hk
    obtain ⟨j, v, name, hlast, hv, hnamed⟩ := ih hbefore
    obtain ⟨head, -, hfound⟩ := hresolves k before turn hbefore hturn
    rw [hresolver] at hfound
    obtain ⟨scheme, name', path, query, hscheme, htarget, hname⟩ :=
      exists_absolute_of_byLocation hnamed.hasHost hfound
    by_cases hleaves : LeavesHost before.uri turn.target
    · exact ⟨k + 1, _, name', .leave hbefore hk hleaves, hk,
        namedAt_of_leaves hnamed hscheme htarget hname hleaves⟩
    · exact ⟨j, v, name, hlast.stay hbefore hk hleaves, hv,
        namedAt_of_stays hnamed ⟨scheme, name', path, query, hscheme, htarget⟩ hleaves⟩

/-- **Hosts along a chain of locations.** In a chain of any length that starts from a web target
with its host in the one `Host` header, every request has exactly one `Host` header, and it names
the host of the target. It names the port too, and holds no userinfo, just if two things hold of
the last hop that left a host or port: its location had no userinfo, and it named a port or led to
the scheme that the request has. Where no hop has left the first host, the second condition is one
on the first request. -/
theorem namesTarget_along_chain (hresolver : r.resolver = byLocation)
    (hstart : StartsNamed request) (hresolves : r.Resolves request turns)
    (hk : (r.chain request turns)[k]? = some d) :
    (∃ value text, d.fields.getAll FieldName.host.text = [value] ∧ value.text? = some text ∧
      sameHost (withAuthority d.uri ⟨text⟩) d.uri = true) ∧
    ∃ j v, LastLeft (r.chain request turns) j k ∧ (r.chain request turns)[j]? = some v ∧
      (NamesTarget d ↔
        (0 < j → ∀ name, v.uri.authority? = some name → '@' ∉ name.text) ∧
        (v.uri.port?.isSome = true ∨ v.uri.scheme? = d.uri.scheme?)) := by
  obtain ⟨j, v, name, hlast, hv, hnamed⟩ := exists_namedAt hresolver hstart hresolves hk
  obtain ⟨text, hheader, htext, -⟩ := hnamed.header
  obtain ⟨value, hvalue, hread⟩ := Descriptor.getAll_of_hostText? hheader
  refine ⟨⟨value, text, hvalue, hread, hnamed.sameHost_of_names htext⟩, j, v, hlast, hv, ?_⟩
  obtain ⟨scheme, path, query, -, huri⟩ := hnamed.source
  have hauthority : v.uri.authority? = some name := by rw [huri]; rfl
  rw [hnamed.namesTarget_iff, hauthority]
  simp

/-- A target by its parts. -/
def web (scheme name path : String) : Uri :=
  .absolute scheme.toList ⟨name.toList⟩ path.toList none

/-- A request for a page, with the host in the header. -/
def frontPage (scheme : String) : Descriptor :=
  { uri := web scheme "a.test" "/"
    fields := Fields.empty.append .host { octets := Octets.ofString "a.test" } }

theorem startsNamed_frontPage :
    StartsNamed (frontPage "http") ∧ StartsNamed (frontPage "https") := by
  constructor
  · exact startsNamed_of_hostAndPort (.inl rfl) rfl (by decide)
  · exact startsNamed_of_hostAndPort (.inr rfl) rfl (by decide)

/-- Two redirects: to a port of another host, and on to another page there. -/
def detour : List Turn :=
  [⟨⟨302⟩, web "http" "b.test:8080" "/x"⟩, ⟨⟨302⟩, web "http" "b.test:8080" "/y"⟩]

theorem resolves_detour : ({} : Rules).Resolves (frontPage "http") detour := by
  have hfirst : byLocation (frontPage "http")
      (redirectTo { octets := Octets.ofString "http://b.test:8080/x" }) =
      some (web "http" "b.test:8080" "/x") := by
    decide +kernel
  have hsecond : byLocation
      (({} : Rules).hop (frontPage "http") ⟨302⟩ (web "http" "b.test:8080" "/x")).request
      (redirectTo { octets := Octets.ofString "/y" }) = some (web "http" "b.test:8080" "/y") := by
    decide +kernel
  exact resolves_cons rfl hfirst (resolves_cons rfl hsecond resolves_nil)

theorem namesTarget_along_detour :
    StartsNamed (frontPage "http") ∧ ({} : Rules).Resolves (frontPage "http") detour ∧
    ∃ d, (({} : Rules).chain (frontPage "http") detour)[2]? = some d ∧ NamesTarget d := by
  refine ⟨startsNamed_frontPage.1, resolves_detour, _, rfl, ?_⟩
  obtain ⟨-, j, v, -, hv, hiff⟩ := namesTarget_along_chain (r := {}) (k := 2) rfl
    startsNamed_frontPage.1 resolves_detour rfl
  have hall : ∀ v ∈ ({} : Rules).chain (frontPage "http") detour,
      v.uri.authority?.all (fun name => '@' ∉ name.text) = true ∧
      v.uri.scheme? = some "http".toList := by
    decide
  obtain ⟨hplain, hscheme⟩ := hall v (List.mem_of_getElem? hv)
  refine hiff.2 ⟨?_, .inr hscheme⟩
  intro _ name hname
  rw [hname] at hplain
  exact of_decide_eq_true hplain

/-- A redirect to a location with userinfo. -/
def toUser : List Turn :=
  [⟨⟨302⟩, web "http" "user@b.test" "/"⟩]

/-- A redirect that keeps the port of the request, but not its scheme. -/
def toPlain : List Turn :=
  [⟨⟨302⟩, web "http" "a.test:443" "/x"⟩]

/-- The header takes over the userinfo of a location, and it stays as it is where the port that goes
without saying becomes another one. -/
theorem not_namesTarget_along_toUser_toPlain :
    (StartsNamed (frontPage "http") ∧ ({} : Rules).Resolves (frontPage "http") toUser ∧
      ∃ d, (({} : Rules).chain (frontPage "http") toUser)[1]? = some d ∧ ¬ NamesTarget d) ∧
    StartsNamed (frontPage "https") ∧ ({} : Rules).Resolves (frontPage "https") toPlain ∧
      ∃ d, (({} : Rules).chain (frontPage "https") toPlain)[1]? = some d ∧ ¬ NamesTarget d := by
  have hleft : byLocation (frontPage "http")
      (redirectTo { octets := Octets.ofString "http://user@b.test/" }) =
      some (web "http" "user@b.test" "/") := by
    decide +kernel
  have hstays : byLocation (frontPage "https")
      (redirectTo { octets := Octets.ofString "http://a.test:443/x" }) =
      some (web "http" "a.test:443" "/x") := by
    decide +kernel
  refine ⟨⟨startsNamed_frontPage.1, resolves_cons rfl hleft resolves_nil, _, rfl, ?_⟩,
    startsNamed_frontPage.2, resolves_cons rfl hstays resolves_nil, _, rfl, ?_⟩
  · rintro ⟨text, htext, hno, -, -⟩
    have hheader : (({} : Rules).hop (frontPage "http") ⟨302⟩
        (web "http" "user@b.test" "/")).request.hostText? = some "user@b.test".toList := by
      decide +kernel
    cases hheader.symm.trans htext
    exact absurd hno (by decide)
  · rintro ⟨text, htext, -, -, hport⟩
    have hheader : (({} : Rules).hop (frontPage "https") ⟨302⟩
        (web "http" "a.test:443" "/x")).request.hostText? = some "a.test".toList := by
      decide +kernel
    cases hheader.symm.trans htext
    exact absurd hport (by decide)

end Rules

end Courier.Redirect
