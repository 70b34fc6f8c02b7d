import Courier.Proofs.Draft.Refusal
import Courier.Proofs.Web.Kinds

/-!
# The site that a draft asks

A draft that is given an address makes a request for the site of that address, or it is refused.
One way leads past both: an address with neither a site nor a root may read like an authority when
it is written. The target of the request is then this authority, and has no scheme.
-/

namespace Courier

/-- A target on the site of an address: both have the same scheme, the same host, and the same port,
which is that of the scheme where none is written. -/
structure Uri.IsOnSite (u : Uri) (a : Web.Address) : Prop where
  scheme : u.scheme? = some a.scheme
  authority : u.authority?.isSome = true
  host : u.host? = a.host?.map Web.Host.toText
  port : u.port?.or (Web.defaultPort? a.scheme) = a.port?

theorem Uri.isOnSite_absolute {a : Web.Address} {s : Web.Site} {host : Web.Host} {path : Text}
    {query : Option Text} (hsite : a.site = some s) (htold : s.IsTold host)
    (hport : ∀ n ∈ s.port, n < 65536) :
    IsOnSite (.absolute a.scheme ⟨s.toText⟩ path query) a where
  scheme := rfl
  authority := rfl
  host := by
    have hhost : a.host? = some host := by
      rw [Web.Address.host?, hsite]
      exact htold.named
    rw [hhost]
    exact congrArg some htold.host_toText
  port := by
    have hwritten : port? (.absolute a.scheme ⟨s.toText⟩ path query) = s.port :=
      htold.port?_toText hport
    rw [hwritten, Web.Address.port?, hsite, Option.or_eq_orElse]
    rfl

namespace Draft

variable {a : Web.Address} {address : Text} {pairs : List (String × String)} {u : Uri}

theorem exists_extendQuery (a : Web.Address) (pairs : List (String × String)) :
    ∃ query, extendQuery a pairs = { a with query } := by
  unfold extendQuery
  split
  · exact ⟨a.query, rfl⟩
  · exact ⟨_, rfl⟩

/-- With whatever query an address is written, it reads as a target on its site, or else it has no
root and reads as an authority. -/
theorem isOnSite_or_of_parse (ha : Web.Address.parse address = .ok a)
    (hu : Uri.parse (extendQuery a pairs).toText = .ok u) :
    u.IsOnSite a ∨ (a.isRootless = true ∧ ∃ name, u = .authority name) := by
  obtain ⟨query, hextended⟩ := exists_extendQuery a pairs
  rw [hextended] at hu
  obtain ⟨hscheme, hkind⟩ := Web.Address.kind_of_parse ha
  have hkind' : Web.Address.Kind { a with query } := hkind.of_parts rfl rfl
  rcases hkind'.of_parse_toText hscheme hu with
    ⟨s, host, path, query', hsite, htold, hport, rfl⟩ | ⟨hrootless, rfl⟩
  · have hsame : a.site = some s := hsite
    exact .inl (Uri.isOnSite_absolute hsame htold hport)
  · exact .inr ⟨hrootless, _, rfl⟩

/-- What can become of an address: a request on its site for every method, or a refusal. -/
inductive Handles (d : Draft) (address : Text) : Prop
  | asks {a : Web.Address} (ha : Web.Address.parse address = .ok a)
    (hrequest : ∀ method, ∃ q, d.toRequest method address = .ok q ∧ q.descriptor.uri.IsOnSite a)
  | refuses {f : Failure} (hf : f.stage = .builder) (hrefused : d.Refused address f)

namespace Calls

variable {calls : Calls} {client : Client} {method : Method}

theorem exists_toRequest (hfailure : (calls.draft client).failure = none) (hclient : client.Made)
    (ha : Web.Address.parse address = .ok a)
    (hu : Uri.parse (extendQuery a calls.query).toText = .ok u) (method : Method) :
    ∃ q, (calls.draft client).toRequest method address = .ok q ∧ q.descriptor.uri = u := by
  rw [toRequest_draft hfailure ha]
  rcases hclient.request_cases method (extendQuery a calls.query).toText with
    ⟨e, he, -⟩ | ⟨q, hq, hrequest⟩
  · rw [hu] at he
    cases he
  · rw [hu] at hq
    cases hq
    rw [hrequest]
    exact ⟨_, rfl, rfl⟩

/-- All input of the calls can be used, and their address, which has neither a site nor a root,
reads like an authority with the query of the calls. -/
structure SlipsThrough (calls : Calls) (address : Text) : Prop where
  valid : ∀ x ∈ calls.list, x.Valid
  slips : ∃ a name, Web.Address.parse address = .ok a ∧ a.isRootless = true ∧
    Uri.parse (extendQuery a calls.query).toText = .ok (.authority name)

/-- What slips through is neither on the site of its address nor refused. -/
theorem not_handles_of_slipsThrough (hclient : client.Made)
    (h : calls.SlipsThrough address) : ¬ (calls.draft client).Handles address := by
  obtain ⟨a, name, ha, -, hu⟩ := h.slips
  have hfailure : (calls.draft client).failure = none := failure_of_valid h.valid
  obtain ⟨q, hq, huri⟩ := exists_toRequest hfailure hclient ha hu .get
  rintro (⟨ha', hrequest⟩ | ⟨hf, hrefused⟩)
  · obtain ⟨q', hq', hsite⟩ := hrequest .get
    cases hq'.symm.trans hq
    have hscheme := hsite.scheme
    rw [huri] at hscheme
    cases hscheme
  · have hsend := (hrefused .zero).1 .get
    have herror := toRequest_of_send hf (congrArg Prod.fst hsend)
    cases herror.symm.trans hq

/-- **A draft asks the site of its address or is refused.** An address is handled for every method
unless it slips through. -/
theorem handles_iff (hclient : client.Made) (address : Text) :
    (calls.draft client).Handles address ↔ ¬ calls.SlipsThrough address := by
  constructor
  · intro hhandles hslips
    exact not_handles_of_slipsThrough hclient hslips hhandles
  · intro hslips
    obtain ⟨cause, hfailure⟩ | ⟨hfailure, hvalid⟩ := calls.failure_cases client
    · exact .refuses rfl (refused_of_toRequest fun method => toRequest_of_failure hfailure)
    have hrefuses : ∀ f, calls.AddressRefused address f → f.stage = .builder →
        (calls.draft client).Handles address := by
      intro f hrefused hf
      apply Handles.refuses hf
      apply refused_of_toRequest
      intro method
      exact (toRequest_eq_error_iff hfailure hclient).2 hrefused
    cases ha : Web.Address.parse address with
    | error e => exact hrefuses _ (.address ha) rfl
    | ok a =>
      cases hu : Uri.parse (extendQuery a calls.query).toText with
      | error e => exact hrefuses _ (.uri ha hu) rfl
      | ok u =>
        apply Handles.asks ha
        intro method
        obtain ⟨q, hq, rfl⟩ := exists_toRequest hfailure hclient ha hu method
        refine ⟨q, hq, ?_⟩
        rcases isOnSite_or_of_parse ha hu with hsite | ⟨hrootless, name, hname⟩
        · exact hsite
        · rw [hname] at hu
          exact absurd ⟨hvalid, a, name, ha, hrootless, hu⟩ hslips

/-- A client that nobody answers. -/
def alone : Client :=
  .ofPeer { script := .list [] }

/-- A site is asked, with its user and its port, and a letter is written to nobody. -/
theorem handles_iff_letter :
    (Calls.draft {} alone).Handles "HTTP://me@A.test:81?b#c".toList ∧
      (∃ q, (Calls.draft {} alone).toRequest .get "HTTP://me@A.test:81?b#c".toList = .ok q) ∧
      (Calls.draft {} alone).Handles "mailto:a@b.test?subject=c".toList := by
  have hclient : alone.Made := .ofPeer _
  refine ⟨?_, ?_, ?_⟩
  · rw [handles_iff hclient]
    rintro ⟨-, a, name, ha, hrootless, -⟩
    cases ha
    cases hrootless
  · obtain ⟨a, ha⟩ : ∃ a, Web.Address.parse "HTTP://me@A.test:81?b#c".toList = .ok a := ⟨_, rfl⟩
    obtain ⟨u, hu⟩ : ∃ u, Uri.parse (extendQuery a (Calls.query {})).toText = .ok u := by
      cases ha
      exact ⟨_, rfl⟩
    obtain ⟨q, hq, -⟩ := exists_toRequest rfl hclient ha hu .get
    exact ⟨q, hq⟩
  · rw [handles_iff hclient]
    rintro ⟨-, a, name, ha, -, hu⟩
    cases ha
    cases hu

theorem not_handles_localhost : ¬ (Calls.draft {} alone).Handles "localhost:8080".toList := by
  apply not_handles_of_slipsThrough (.ofPeer _)
  refine ⟨fun x hx => absurd hx List.not_mem_nil, ?_⟩
  exact ⟨_, ⟨"localhost:8080".toList⟩, rfl, rfl, rfl⟩

end Calls

end Draft

end Courier
