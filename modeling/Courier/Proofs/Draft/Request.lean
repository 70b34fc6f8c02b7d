import Courier.Proofs.Draft.Calls
import Mathlib.Data.List.Forall2

/-!
# The request of a draft

The request of a draft has the headers that its client gives to every request and those that the
calls set, as if each had been set in that request itself, one after the other.
-/

namespace Courier

/-! ## Headers of a request -/

namespace Request

/-- Sets headers in a request, one after the other. -/
def setHeaders (q : Request) (headers : List (Octets × RawValue)) : Except Failure Request :=
  headers.foldlM (fun q header => q.mapDescriptor (·.setHeader header.1 header.2)) q

/-- Changes the header list of a request. -/
def withFields (q : Request) (change : Fields → Fields) : Request :=
  { q with descriptor := q.descriptor.withFields change }

end Request

/-- What is read from the name and the value of a header. -/
structure Reads (header : Octets × RawValue) (f : Field) : Prop where
  name : FieldName.read header.1 = .ok f.name
  value : header.2.read = .ok f.value

variable {q : Request}

theorem setHeader_of_reads {header : Octets × RawValue} {f : Field} (h : Reads header f) :
    q.mapDescriptor (·.setHeader header.1 header.2) =
      .ok (q.withFields (·.insert f.name f.value)) := by
  simp only [Request.mapDescriptor, Descriptor.setHeader, h.name, h.value]
  rfl

theorem setHeaders_of_reads {headers : List (Octets × RawValue)} {list : List Field}
    (h : List.Forall₂ Reads headers list) :
    q.setHeaders headers = .ok (q.withFields (·.insertAll list)) := by
  induction h generalizing q with
  | nil => rfl
  | cons hheader _ ih =>
    rw [Request.setHeaders, List.foldlM_cons, setHeader_of_reads hheader]
    exact ih

namespace Draft

/-! ## Headers of a draft -/

theorem mapM_read_checked (values : List FieldValue) :
    (values.map RawValue.checked).mapM RawValue.read = Except.ok values := by
  induction values with
  | nil => rfl
  | cons v rest ih =>
    rw [List.map_cons, List.mapM_cons, ih]
    rfl

theorem setHeaderValues_text (n : FieldName) (values : List FieldValue) :
    q.mapDescriptor (·.setHeaderValues (Octets.ofText n.text) (values.map .checked)) =
      .ok (q.withFields (·.replaceAll n values)) := by
  simp only [Request.mapDescriptor, Descriptor.setHeaderValues, Setting.read_text,
    mapM_read_checked]
  rfl

theorem applyFields_eq (h : Fields) (q : Request) :
    applyFields h q = .ok (q.withFields h.replay) := by
  have hnames : ∀ (names : List FieldName) (q : Request),
      names.foldlM (fun q name => q.mapDescriptor (·.setHeaderValues (Octets.ofText name.text)
        ((h.getAll name.text).map .checked))) q =
      .ok (q.withFields fun k =>
        names.foldl (fun k n => k.replaceAll n (h.getAll n.text)) k) := by
    intro names
    induction names with
    | nil => exact fun q => rfl
    | cons n rest ih =>
      intro q
      rw [List.foldlM_cons, setHeaderValues_text]
      exact ih _
  exact hnames h.names q

/-- What a draft sets in a request besides headers. -/
def finish (d : Draft) (q : Request) : Request :=
  { q with
    redirects := d.redirects.getD q.redirects
    readTimeout := d.readTimeout <|> q.readTimeout
    content := (d.body.map fun o => { source := some (.once o) }).getD q.content }

variable {d : Draft} {method : Method} {address : Text} {a : Web.Address}

/-- The request of a draft without a failure. -/
theorem toRequest_eq (hd : d.failure = none) (ha : Web.Address.parse address = .ok a) :
    d.toRequest method address =
      (d.client.request method (extendQuery a d.query).toText).map fun q =>
        d.finish (q.withFields d.fields.replay) := by
  unfold toRequest
  simp only [hd, ha, Bind.bind, Except.bind, pure, Except.pure]
  cases d.client.request method (extendQuery a d.query).toText with
  | error f => rfl
  | ok q =>
    dsimp only [Except.map]
    rw [applyFields_eq]
    dsimp only [finish, Request.followRedirects, Request.withReadTimeout, Request.withContent]
    cases d.redirects <;> cases d.readTimeout <;> cases d.body <;> rfl

theorem toRequest_of_failure {f : Failure} (hd : d.failure = some f) :
    d.toRequest method address = .error f := by
  unfold toRequest
  rw [hd]
  rfl

theorem toRequest_of_error {e : Web.AddressError} (hd : d.failure = none)
    (ha : Web.Address.parse address = .error e) :
    d.toRequest method address = .error (.ofCause .builder (.address e)) := by
  unfold toRequest
  rw [hd, ha]
  rfl

/-- A draft that gives a request has no failure, and its address can be read. -/
theorem of_toRequest (h : d.toRequest method address = .ok q) :
    d.failure = none ∧ ∃ a, Web.Address.parse address = .ok a := by
  cases hd : d.failure with
  | some f =>
    rw [toRequest_of_failure hd] at h
    cases h
  | none =>
    cases ha : Web.Address.parse address with
    | ok a => exact ⟨rfl, a, rfl⟩
    | error e =>
      rw [toRequest_of_error hd ha] at h
      cases h

/-! ## Headers that calls set -/

namespace Setting

/-- The header that a call with a credential sets. -/
def secret? (name : FieldName) (value : String) : Option (Octets × RawValue) :=
  (FieldValue.ofString? value).map fun v => (Octets.ofText name.text, .checked v.hidden)

/-- The name and the value of the header that a call sets, as they are given. -/
def header? : Setting → Option (Octets × RawValue)
  | header name value => some (name, value)
  | contentType type => some (Octets.ofText FieldName.contentType.text, .checked type.toValue)
  | accept type => some (Octets.ofText FieldName.accept.text, .octets (.ofString type))
  | userAgent agent => some (Octets.ofText FieldName.userAgent.text, .octets (.ofString agent))
  | apiKey key => secret? .xApiKey key
  | basicAuth user password =>
    secret? .authorization ("Basic " ++ String.ofList (basicCredentials user password))
  | bearerAuth token => secret? .authorization ("Bearer " ++ token)
  | query _ _ | redirects _ | readTimeout _ => none

/-- Whether a call sets a header of this name. -/
def names (n : FieldName) (s : Setting) : Bool :=
  s.header?.any fun header => FieldName.ofOctets? header.1 == some n

variable {s : Setting} {x : Option Field}

theorem reads_of_checked {name : Octets} {n : FieldName} {value : RawValue}
    (hname : FieldName.read name = .ok n) (h : checked n value.read = .ok x) :
    ∃ f, x = some f ∧ Reads (name, value) f := by
  unfold checked at h
  cases hv : value.read with
  | error f =>
    rw [hv] at h
    cases h
  | ok v =>
    rw [hv] at h
    cases h
    exact ⟨_, rfl, hname, hv⟩

theorem reads_of_credential {name : FieldName} {value : String}
    (h : credential name value = .ok x) :
    ∃ header f, secret? name value = some header ∧ x = some f ∧ Reads header f := by
  unfold credential at h
  unfold secret?
  cases hv : FieldValue.ofString? value with
  | none =>
    rw [hv] at h
    cases h
  | some v =>
    rw [hv] at h
    cases h
    exact ⟨_, _, rfl, rfl, read_text name, rfl⟩

/-- A call that can be used sets what is read from its header. -/
theorem reads_of_sets (h : s.sets = .ok x) :
    (s.header? = none ∧ x = none) ∨
      ∃ header f, s.header? = some header ∧ x = some f ∧ Reads header f := by
  cases s with
  | header name value =>
    rw [sets] at h
    cases hn : FieldName.read name with
    | error f =>
      rw [hn] at h
      cases h
    | ok n =>
      rw [hn] at h
      obtain ⟨f, rfl, hf⟩ := reads_of_checked hn h
      exact .inr ⟨_, f, rfl, rfl, hf⟩
  | contentType type =>
    cases h
    exact .inr ⟨_, _, rfl, rfl, read_text _, rfl⟩
  | accept type =>
    obtain ⟨f, rfl, hf⟩ := reads_of_checked (read_text _) h
    exact .inr ⟨_, f, rfl, rfl, hf⟩
  | userAgent agent =>
    obtain ⟨f, rfl, hf⟩ := reads_of_checked (read_text _) h
    exact .inr ⟨_, f, rfl, rfl, hf⟩
  | apiKey key => exact .inr (reads_of_credential h)
  | basicAuth user password => exact .inr (reads_of_credential h)
  | bearerAuth token => exact .inr (reads_of_credential h)
  | query key value | redirects limit | readTimeout limit =>
    cases h
    exact .inl ⟨rfl, rfl⟩

theorem field?_of_sets (h : s.sets = .ok x) : s.field? = x := by
  rw [field?, h]
  cases x <;> rfl

/-- A call that can be used names the header that it sets. -/
theorem names_iff {n : FieldName} (h : s.sets = .ok x) :
    s.names n = true ↔ ∃ f, x = some f ∧ f.name = n := by
  rcases reads_of_sets h with ⟨hheader, rfl⟩ | ⟨header, f, hheader, rfl, hf⟩
  · simp [names, hheader]
  · have hname := hf.name
    rw [FieldName.read] at hname
    split at hname
    · next m hm =>
      cases hname
      simp [names, hheader, hm]
    · cases hname

end Setting

variable {settings : List Setting}

theorem reads_filterMap (h : ∀ s ∈ settings, ∃ x, s.sets = .ok x) :
    List.Forall₂ Reads (settings.filterMap (·.header?)) (settings.filterMap (·.field?)) := by
  induction settings with
  | nil => exact .nil
  | cons s rest ih =>
    obtain ⟨x, hx⟩ := h s List.mem_cons_self
    have hrest := ih fun s hs => h s (List.mem_cons_of_mem _ hs)
    have hfield := Setting.field?_of_sets hx
    rcases Setting.reads_of_sets hx with ⟨hheader, rfl⟩ | ⟨header, f, hheader, rfl, hf⟩
    · rw [List.filterMap_cons_none hheader, List.filterMap_cons_none hfield]
      exact hrest
    · rw [List.filterMap_cons_some hheader, List.filterMap_cons_some hfield]
      exact .cons hf hrest

theorem any_names_iff {n : FieldName} (h : ∀ s ∈ settings, ∃ x, s.sets = .ok x) :
    settings.any (·.names n) = true ↔ n ∈ (settings.filterMap (·.field?)).map (·.name) := by
  rw [List.any_eq_true, List.mem_map]
  constructor
  · rintro ⟨s, hs, hn⟩
    obtain ⟨x, hx⟩ := h s hs
    obtain ⟨f, rfl, hname⟩ := (Setting.names_iff hx).1 hn
    exact ⟨f, List.mem_filterMap.2 ⟨s, hs, Setting.field?_of_sets hx⟩, hname⟩
  · rintro ⟨f, hf, hname⟩
    obtain ⟨s, hs, hfield⟩ := List.mem_filterMap.1 hf
    obtain ⟨x, hx⟩ := h s hs
    refine ⟨s, hs, (Setting.names_iff hx).2 ⟨f, ?_, hname⟩⟩
    rw [← Setting.field?_of_sets hx, hfield]

namespace Calls

variable {calls : Calls} {client : Client}

/-- The headers that a body sets: its length, and its type unless the type was set before. -/
def bodyHeaders (calls : Calls) (b : Body) : List (Octets × RawValue) :=
  (if calls.before.any (·.names .contentType) then []
    else [(Octets.ofText FieldName.contentType.text, .checked b.type.toValue)]) ++
    [(Octets.ofText FieldName.contentLength.text, .number b.sent.length)]

/-- The headers that the calls set, as they are given, one after the other. -/
def headers (calls : Calls) : List (Octets × RawValue) :=
  calls.before.filterMap (·.header?) ++
    (match calls.body with
      | some b => calls.bodyHeaders b
      | none => []) ++
    calls.after.filterMap (·.header?)

theorem reads_bodyHeaders (h : ∀ s ∈ calls.before, ∃ x, s.sets = .ok x) (b : Body) :
    List.Forall₂ Reads (calls.bodyHeaders b)
      (bodyFields (Fields.insertAll {} calls.openingFields) b.type b.sent.length) := by
  have hcontains : (Fields.insertAll {} calls.openingFields).contains FieldName.contentType.text =
      calls.before.any (·.names .contentType) := by
    rw [Bool.eq_iff_iff, any_names_iff h, Fields.contains_text_iff, Fields.mem_names_insertAll_iff]
    exact or_iff_right List.not_mem_nil
  have hlength : Reads (Octets.ofText FieldName.contentLength.text, .number b.sent.length)
      ⟨.contentLength, .ofNat b.sent.length⟩ := ⟨Setting.read_text _, rfl⟩
  rw [bodyHeaders, bodyFields, hcontains]
  split
  · exact .cons hlength .nil
  · exact .cons ⟨Setting.read_text _, rfl⟩ (.cons hlength .nil)

/-- Calls that can be used set what is read from their headers. -/
theorem reads_headers (h : (calls.draft client).failure = none) :
    List.Forall₂ Reads calls.headers calls.fields := by
  obtain ⟨hbefore, hafter, -⟩ := failure_draft h
  rw [headers, fields]
  refine List.rel_append (List.rel_append (reads_filterMap hbefore) ?_) (reads_filterMap hafter)
  cases calls.body with
  | some b => exact reads_bodyHeaders hbefore b
  | none => exact .nil

variable {method : Method} {address : Text} {a : Web.Address}

theorem replay_draft : (calls.draft client).fields.replay = (·.insertAll calls.fields) := by
  rw [fields_draft]
  funext k
  exact Fields.replay_insertAll calls.fields k

/-- The request of a draft that comes about by calls. -/
theorem toRequest_draft (hvalid : (calls.draft client).failure = none)
    (ha : Web.Address.parse address = .ok a) :
    (calls.draft client).toRequest method address =
      (client.request method (extendQuery a calls.query).toText).map fun q =>
        (calls.draft client).finish (q.withFields (·.insertAll calls.fields)) := by
  rw [toRequest_eq hvalid ha, client_draft, query_draft, replay_draft]

/-- The headers of calls that can all be used can be set in every request, and the request of the
calls has the same version, method, target and headers as the request of the client in which these
headers are set, one after the other. -/
theorem descriptor_eq_setHeaders (hvalid : (calls.draft client).failure = none)
    (ha : Web.Address.parse address = .ok a) :
    (∀ q : Request, ∃ q', q.setHeaders calls.headers = .ok q') ∧
    ((calls.draft client).toRequest method address).map (·.descriptor) = (do
      let q ← client.request method (extendQuery a calls.query).toText
      let q ← q.setHeaders calls.headers
      return q.descriptor) := by
  have hset : ∀ q : Request,
      q.setHeaders calls.headers = .ok (q.withFields (·.insertAll calls.fields)) := by
    intro q
    exact setHeaders_of_reads (reads_headers hvalid)
  refine ⟨fun q => ⟨_, hset q⟩, ?_⟩
  rw [toRequest_draft hvalid ha]
  cases client.request method (extendQuery a calls.query).toText with
  | error f => rfl
  | ok q =>
    dsimp only [Bind.bind, Except.bind, Except.map]
    rw [hset]
    rfl

/-- A letter whose length is first given wrong, and whose writer has a name of its own. -/
def letter : Calls :=
  { before := [.userAgent "pen", .header (Octets.ofString "Content-Length") (.number 9)]
    body := some (.text "hi")
    after := [.bearerAuth "key"] }

/-- A client that names itself. -/
def named : Client :=
  .configured { script := .list [] } .browserLike

theorem exists_toRequest_letter :
    ∃ q, (letter.draft named).toRequest .post "http://a.test/".toList = .ok q := by
  obtain ⟨a, ha⟩ : ∃ a, Web.Address.parse "http://a.test/".toList = .ok a := ⟨_, rfl⟩
  obtain ⟨q, hq⟩ : ∃ q, named.request .post a.toText = .ok q := by
    cases ha
    exact ⟨_, rfl⟩
  rw [toRequest_draft rfl ha, show extendQuery a letter.query = a from rfl, hq]
  exact ⟨_, rfl⟩

theorem descriptor_eq_setHeaders_letter :
    ∃ a q, Web.Address.parse "http://a.test/".toList = .ok a ∧
      (letter.draft named).failure = none ∧
      (letter.draft named).toRequest .post "http://a.test/".toList = .ok q ∧
      (do
        let q ← named.request .post (extendQuery a letter.query).toText
        let q ← q.setHeaders letter.headers
        return q.descriptor) = Except.ok q.descriptor := by
  obtain ⟨a, ha⟩ : ∃ a, Web.Address.parse "http://a.test/".toList = .ok a := ⟨_, rfl⟩
  obtain ⟨q, hq⟩ := exists_toRequest_letter
  have hsame : ((letter.draft named).toRequest .post "http://a.test/".toList).map (·.descriptor) =
      _ := (descriptor_eq_setHeaders rfl ha).2
  rw [hq] at hsame
  exact ⟨a, q, ha, rfl, hq, hsame.symm⟩

end Calls

end Draft

end Courier
