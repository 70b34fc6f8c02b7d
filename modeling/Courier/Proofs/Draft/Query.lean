import Courier.Proofs.Draft.Target
import Courier.Proofs.Form
import Courier.Proofs.Redirect.Targets

/-!
# The query of a draft

The request of a draft asks for the path of the address that the draft was given. Its query is the
one of the address with the pairs of the draft behind it, whatever these hold. Its target has no
fragment, and without pairs it has the query that was read.
-/

namespace Courier

open Uri (IsWebScheme)

/-- A target that is what an address asks for, with pairs behind the query of the address. -/
structure Uri.AsksFor (u : Uri) (a : Web.Address) (pairs : List (String × String)) : Prop where
  path : u.path = a.path.toText
  query : Form.decode (u.query?.getD []) = Form.decode (a.query.getD []) ++ pairs
  unchanged : pairs = [] → u.query? = a.query
  resource : u.toText = (Draft.extendQuery a pairs).resourceText
  fragment : '#' ∉ u.toText

variable {a : Web.Address} {pairs : List (String × String)} {u : Uri} {method : Method}

/-! ## Addresses -/

namespace Draft

theorem decode_extendQuery (a : Web.Address) (pairs : List (String × String)) :
    Form.decode ((extendQuery a pairs).query.getD []) =
      Form.decode (a.query.getD []) ++ pairs := by
  unfold extendQuery
  split
  · next hempty => rw [List.isEmpty_iff.1 hempty, List.append_nil]
  · exact Form.decode_appendTo _ pairs

/-- A written address stays one with pairs behind its query. -/
theorem isWritten_extendQuery (h : a.IsWritten) : (extendQuery a pairs).IsWritten := by
  unfold extendQuery
  split
  · exact h
  · refine ⟨h.site, h.path, ?_⟩
    rintro q ⟨⟩
    apply Form.isQueryEscaped_of_mem_appendTo
    intro c hc
    cases hquery : a.query with
    | none =>
      rw [hquery] at hc
      cases hc
    | some q =>
      rw [hquery] at hc
      exact h.query q hquery c hc

/-- The target that a web address is with pairs behind its query. -/
theorem asksFor_of_parse (hweb : IsWebScheme a.scheme) (hwritten : a.IsWritten)
    (hu : Uri.parse (extendQuery a pairs).toText = .ok u) : u.AsksFor a pairs := by
  obtain ⟨query, hextended⟩ := exists_extendQuery a pairs
  have hquery : query = (extendQuery a pairs).query := by rw [hextended]
  have hwritten' : (extendQuery a pairs).IsWritten := isWritten_extendQuery hwritten
  rw [hextended] at hu hwritten'
  obtain ⟨s, host, hsite, -⟩ := hwritten.site
  obtain rfl := hwritten'.eq_absolute_of_parse_toText hweb hsite hu
  constructor
  · rfl
  · change Form.decode (query.getD []) = _
    rw [hquery, decode_extendQuery]
  · rintro rfl
    exact hquery
  · have hsite' : Web.Address.site { a with query } = some s := hsite
    rw [hextended, Redirect.toText_absolute, Web.Address.resourceText_eq hsite']
  · exact Redirect.fragment_not_mem_absolute hweb (Uri.isSiteTarget_of_parse hu)

end Draft

/-! ## Requests -/

theorem Descriptor.uri_of_setHeader {d d' : Descriptor} {name : Octets} {value : RawValue}
    (h : d.setHeader name value = .ok d') : d'.uri = d.uri := by
  unfold setHeader at h
  obtain ⟨n, -, h⟩ := bind_eq_ok.1 h
  obtain ⟨v, -, h⟩ := bind_eq_ok.1 h
  cases h
  rfl

/-- The target of a request of a client is read from the text that the request is for. -/
theorem Client.parse_of_request {client : Client} {text : Text} {q : Request}
    (h : client.request method text = .ok q) : Uri.parse text = .ok q.descriptor.uri := by
  unfold request Descriptor.parse Uri.read at h
  cases hu : Uri.parse text with
  | error e =>
    rw [hu] at h
    cases h
  | ok u =>
    rw [hu] at h
    cases hagent : client.config.userAgent with
    | none =>
      rw [hagent] at h
      cases h
      rfl
    | some agent =>
      rw [hagent] at h
      obtain ⟨d, hd, h⟩ := bind_eq_ok.1 h
      cases hd
      obtain ⟨d', hd', h⟩ := bind_eq_ok.1 h
      cases h
      exact congrArg Except.ok (Descriptor.uri_of_setHeader hd').symm

namespace Draft.Calls

variable {calls : Calls} {client : Client} {address : Text} {q : Request}

/-- **Queries.** A request that calls make for a web address asks for what the address does, with
the pairs of the calls behind its query. -/
theorem asksFor_of_toRequest (hq : (calls.draft client).toRequest method address = .ok q)
    (ha : Web.Address.parse address = .ok a) (hweb : IsWebScheme a.scheme) :
    q.descriptor.uri.AsksFor a calls.query := by
  have hwritten : a.IsWritten := Web.Address.isWritten_of_resolve (by simp) ha hweb
  rw [toRequest_draft (of_toRequest hq).1 ha] at hq
  cases hrequest : client.request method (extendQuery a calls.query).toText with
  | error f =>
    rw [hrequest] at hq
    cases hq
  | ok q₀ =>
    have hu := Client.parse_of_request hrequest
    rw [hrequest] at hq
    cases hq
    exact asksFor_of_parse hweb hwritten hu

/-- Two pairs, one of which is full of signs and the other one empty. -/
def search : Calls :=
  { before := [.query "a&b" "=ü #+%"], after := [.query "" ""] }

theorem asksFor_search :
    ∃ a q, Web.Address.parse "http://a.test/p?x=1#top".toList = .ok a ∧
      (search.draft alone).toRequest .get "http://a.test/p?x=1#top".toList = .ok q ∧
      q.descriptor.uri.query? = some "x=1&a%26b=%3D%C3%BC+%23%2B%25&=".toList ∧
      q.descriptor.uri.AsksFor a [("a&b", "=ü #+%"), ("", "")] := by
  obtain ⟨a, ha⟩ : ∃ a, Web.Address.parse "http://a.test/p?x=1#top".toList = .ok a := ⟨_, rfl⟩
  obtain ⟨u, hu, hquery⟩ : ∃ u, Uri.parse (extendQuery a search.query).toText = .ok u ∧
      u.query? = some "x=1&a%26b=%3D%C3%BC+%23%2B%25&=".toList := by
    cases ha
    exact ⟨_, rfl, rfl⟩
  have hweb : IsWebScheme a.scheme := by
    cases ha
    exact .inl rfl
  obtain ⟨q, hq, rfl⟩ := exists_toRequest rfl (.ofPeer _) ha hu .get
  exact ⟨a, q, ha, hq, hquery, asksFor_of_toRequest hq ha hweb⟩

end Draft.Calls

end Courier
