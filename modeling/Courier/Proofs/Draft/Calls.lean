import Courier.Draft
import Courier.Proofs.Field
import Courier.Proofs.Fields.Replay

/-!
# Drafts as calls

A draft comes about by calls: settings, perhaps a body, and more settings. What a call does is said
once for all of them. A setting that can be used sets at most one header, and one that cannot be
used makes a failure; a body sets its length, and its type if none has been set. The request of a
draft without a failure is that of its client with the headers of the draft set in it.
-/

namespace Courier

namespace Draft

variable {d : Draft}

/-- The failure of a computation, if it failed. -/
def failureOf {α : Type} : Except Failure α → Option Failure
  | .ok _ => none
  | .error f => some f

theorem failureOf_eq_none_iff {α : Type} {x : Except Failure α} :
    failureOf x = none ↔ ∃ a, x = .ok a := by
  cases x <;> simp [failureOf]

/-- The draft after a header is set, or after the input for it made a failure. -/
def take (d : Draft) (x : Except Failure (Option Field)) : Draft :=
  { d with
    fields := d.fields.insertAll x.toOption.join.toList
    failure := d.failure <|> failureOf x }

theorem orElse_eq_none_iff {α : Type} {x y : Option α} :
    (x <|> y) = none ↔ x = none ∧ y = none := by
  cases x <;> simp

theorem take_none : d.take (.ok none) = d := by
  simp [take, failureOf, Except.toOption]

theorem take_some (f : Field) : d.take (.ok (some f)) = d.setField f.name f.value := by
  simp [take, failureOf, Except.toOption, setField]

/-! ## Settings -/

/-- A call that sets anything but the body. -/
inductive Setting
  | header (name : Octets) (value : RawValue)
  | contentType (type : MediaType)
  | accept (type : String)
  | userAgent (agent : String)
  | apiKey (key : String)
  | basicAuth (user : String) (password : Option String)
  | bearerAuth (token : String)
  | query (key value : String)
  | redirects (limit : Redirect.Limit)
  | readTimeout (limit : Duration)

namespace Setting

/-- The draft after the call. -/
def apply : Setting → Draft → Draft
  | header name value, d => d.header name value
  | contentType type, d => d.contentType type
  | accept type, d => d.accept type
  | userAgent agent, d => d.userAgent agent
  | apiKey key, d => d.apiKey key
  | basicAuth user password, d => d.basicAuth user password
  | bearerAuth token, d => d.bearerAuth token
  | query key value, d => d.addQuery key value
  | redirects limit, d => d.followRedirects limit
  | readTimeout limit, d => d.withReadTimeout limit

/-- A header with a checked value. -/
def checked (name : FieldName) (value : Except Failure FieldValue) :
    Except Failure (Option Field) :=
  value.map fun v => some ⟨name, v⟩

/-- A header with a credential. -/
def credential (name : FieldName) (value : String) : Except Failure (Option Field) :=
  match FieldValue.ofString? value with
  | some v => .ok (some ⟨name, v.hidden⟩)
  | none => .error (.ofCause .builder .credential)

/-- The header that a call sets, if it sets one, or why the call cannot be used. -/
def sets : Setting → Except Failure (Option Field)
  | header name value => (FieldName.read name).bind fun name => checked name value.read
  | contentType type => .ok (some ⟨.contentType, type.toValue⟩)
  | accept type => checked .accept (RawValue.octets (.ofString type)).read
  | userAgent agent => checked .userAgent (RawValue.octets (.ofString agent)).read
  | apiKey key => credential .xApiKey key
  | basicAuth user password =>
    credential .authorization ("Basic " ++ String.ofList (basicCredentials user password))
  | bearerAuth token => credential .authorization ("Bearer " ++ token)
  | query _ _ | redirects _ | readTimeout _ => .ok none

/-- The pair that a call adds to the query. -/
def pair? : Setting → Option (String × String)
  | query key value => some (key, value)
  | _ => none

/-- The limit for redirects that a call sets. -/
def limit? : Setting → Option Redirect.Limit
  | redirects limit => some limit
  | _ => none

/-- The longest wait that a call sets. -/
def timeout? : Setting → Option Duration
  | readTimeout limit => some limit
  | _ => none

variable {s : Setting}

theorem read_text (n : FieldName) : FieldName.read (Octets.ofText n.text) = .ok n := by
  rw [FieldName.read, FieldName.ofOctets?_text]

theorem header_eq (name : Octets) (value : RawValue) :
    d.header name value =
      d.take ((FieldName.read name).bind fun name => checked name value.read) := by
  unfold Draft.header
  cases FieldName.read name with
  | error f => rfl
  | ok n =>
    cases value.read with
    | error f => rfl
    | ok v => exact (take_some ⟨n, v⟩).symm

theorem header_text_eq (n : FieldName) (value : RawValue) :
    d.header (Octets.ofText n.text) value = d.take (checked n value.read) := by
  rw [header_eq, read_text]
  rfl

theorem credential_eq (name : FieldName) (value : String) :
    d.credential name value = d.take (credential name value) := by
  unfold Draft.credential credential
  cases FieldValue.ofString? value with
  | none => rfl
  | some v => exact (take_some ⟨name, v.hidden⟩).symm

/-- A header changes neither the query nor the limits. -/
theorem take_eq (x : Except Failure (Option Field)) :
    d.take x = { d.take x with
      query := d.query ++ (none : Option (String × String)).toList
      redirects := none <|> d.redirects
      readTimeout := none <|> d.readTimeout } := by
  simp [take]

/-- All that a call does. -/
theorem apply_eq (s : Setting) (d : Draft) :
    s.apply d = { d.take s.sets with
      query := d.query ++ s.pair?.toList
      redirects := s.limit? <|> d.redirects
      readTimeout := s.timeout? <|> d.readTimeout } := by
  cases s with
  | header name value => exact (header_eq name value).trans (take_eq _)
  | accept type => exact (header_text_eq _ _).trans (take_eq _)
  | userAgent agent => exact (header_text_eq _ _).trans (take_eq _)
  | apiKey key => exact (credential_eq _ key).trans (take_eq _)
  | basicAuth user password => exact (credential_eq _ _).trans (take_eq _)
  | bearerAuth token => exact (credential_eq _ _).trans (take_eq _)
  | contentType type => exact (take_some ⟨.contentType, type.toValue⟩).symm.trans (take_eq _)
  | query key value => simp [apply, addQuery, take_none, sets, pair?, limit?, timeout?]
  | redirects limit => simp [apply, followRedirects, take_none, sets, pair?, limit?, timeout?]
  | readTimeout limit => simp [apply, withReadTimeout, take_none, sets, pair?, limit?, timeout?]

/-- The header that a call sets. -/
def field? (s : Setting) : Option Field :=
  s.sets.toOption.join

theorem fields_apply : (s.apply d).fields = d.fields.insertAll s.field?.toList := by
  rw [apply_eq]
  rfl

theorem query_apply : (s.apply d).query = d.query ++ s.pair?.toList := by
  rw [apply_eq]

theorem failure_apply : (s.apply d).failure = (d.failure <|> failureOf s.sets) := by
  rw [apply_eq]
  rfl

end Setting

/-! ## Bodies -/

/-- A call that sets the body: one of the forms that the library writes, or what another writer has
made of a value, which may be the cause that there is nothing. -/
inductive Body
  | json (value : Json)
  | unnamed
  | form (value : Json)
  | pairs (pairs : List (String × String))
  | octets (octets : Octets)
  | text (text : String)
  | written (type : MediaType) (octets : Octets)
  | unwritable (type : MediaType) (cause : Cause)

namespace Body

/-- The draft after the call. -/
def apply : Body → Draft → Draft
  | json value, d => d.jsonBody value
  | unnamed, d => d.unnamedBody
  | form value, d => d.formBody value
  | pairs list, d => d.pairsBody list
  | octets o, d => d.octetsBody o
  | text t, d => d.textBody t
  | written type o, d => d.withBody type o
  | unwritable type cause, d => (d.fail (.ofCause .builder cause)).withBody type []

/-- The media type of the body. -/
def type : Body → MediaType
  | json _ | unnamed => .json
  | form _ | pairs _ => .form
  | octets _ => .octets
  | text _ => .text
  | written type _ | unwritable type _ => type

/-- The octets of the body, or why there are none. -/
def content : Body → Except Failure Octets
  | json value => .ok (Octets.ofText value.toText)
  | unnamed => .error (.ofCause .builder .jsonKey)
  | form value => match Form.ofJson value with
    | .ok t => .ok (Octets.ofText t)
    | .error e => .error (.ofCause .builder (.form e))
  | pairs list => .ok (Octets.ofText (Form.encodePairs list))
  | octets o => .ok o
  | text t => .ok (Octets.ofString t)
  | written _ o => .ok o
  | unwritable _ cause => .error (.ofCause .builder cause)

/-- The octets that are set as the body; there are none after a failure. -/
def sent (b : Body) : Octets :=
  b.content.toOption.getD []

end Body

/-- The headers that a body sets in a header list. -/
def bodyFields (h : Fields) (type : MediaType) (length : Nat) : List Field :=
  (if h.contains FieldName.contentType.text then [] else [⟨.contentType, type.toValue⟩]) ++
    [⟨.contentLength, .ofNat length⟩]

theorem withBody_eq (d : Draft) (type : MediaType) (o : Octets) :
    d.withBody type o =
      { d with
        fields := d.fields.insertAll (bodyFields d.fields type o.length)
        body := some o } := by
  unfold withBody bodyFields
  dsimp only
  by_cases h : d.fields.contains FieldName.contentType.text = true
  · simp [h, setField]
  · simp [h, setField, contentType]

/-- All that a call that sets the body does. -/
theorem Body.apply_eq (b : Body) (d : Draft) :
    b.apply d = { d with
      fields := d.fields.insertAll (bodyFields d.fields b.type b.sent.length)
      body := some b.sent
      failure := d.failure <|> failureOf b.content } := by
  have hok : ∀ (type : MediaType) (o : Octets), d.withBody type o = { d with
      fields := d.fields.insertAll (bodyFields d.fields type o.length)
      body := some o
      failure := d.failure <|> none } := by
    intro type o
    simp [withBody_eq]
  have herror : ∀ (type : MediaType) (f : Failure), (d.fail f).withBody type [] = { d with
      fields := d.fields.insertAll (bodyFields d.fields type 0)
      body := some []
      failure := d.failure <|> some f } := by
    intro type f
    rw [withBody_eq]
    rfl
  cases b with
  | form value =>
    simp only [apply, formBody, content, sent, type]
    cases Form.ofJson value with
    | ok t => exact hok _ _
    | error e => exact herror _ _
  | unnamed => exact herror _ _
  | unwritable type cause => exact herror _ _
  | _ => exact hok _ _

/-! ## Sequences of calls -/

/-- Settings one after the other. -/
def applyAll (settings : List Setting) (d : Draft) : Draft :=
  settings.foldl (fun d s => s.apply d) d

variable {settings : List Setting}

theorem applyAll_cons (s : Setting) : applyAll (s :: settings) d = applyAll settings (s.apply d) :=
  rfl

theorem fields_applyAll :
    (applyAll settings d).fields = d.fields.insertAll (settings.filterMap (·.field?)) := by
  induction settings generalizing d with
  | nil => rfl
  | cons s rest ih =>
    rw [applyAll_cons, ih, Setting.fields_apply, List.filterMap_cons]
    cases s.field? <;> rfl

theorem query_applyAll :
    (applyAll settings d).query = d.query ++ settings.filterMap (·.pair?) := by
  induction settings generalizing d with
  | nil => exact (List.append_nil _).symm
  | cons s rest ih =>
    rw [applyAll_cons, ih, Setting.query_apply, List.filterMap_cons, List.append_assoc]
    cases s.pair? <;> rfl

/-- Settings let the client and the body of a draft be. -/
theorem applyAll_keeps :
    (applyAll settings d).client = d.client ∧ (applyAll settings d).body = d.body := by
  induction settings generalizing d with
  | nil => exact ⟨rfl, rfl⟩
  | cons s rest ih =>
    rw [applyAll_cons, ih.1, ih.2, Setting.apply_eq]
    exact ⟨rfl, rfl⟩

/-- A draft without a failure has none in any of its calls. -/
theorem failure_applyAll (h : (applyAll settings d).failure = none) :
    d.failure = none ∧ ∀ s ∈ settings, ∃ x, s.sets = .ok x := by
  induction settings generalizing d with
  | nil => exact ⟨h, by simp⟩
  | cons s rest ih =>
    obtain ⟨hs, hrest⟩ := ih h
    rw [Setting.failure_apply, orElse_eq_none_iff] at hs
    refine ⟨hs.1, ?_⟩
    intro s' hs'
    rcases List.mem_cons.1 hs' with rfl | hs'
    · exact failureOf_eq_none_iff.1 hs.2
    · exact hrest s' hs'

/-- The calls by which a draft comes about. The body is set once at most. -/
structure Calls where
  before : List Setting := []
  body : Option Body := none
  after : List Setting := []

namespace Calls

variable {calls : Calls} {client : Client}

/-- The draft before the body is set. -/
def opening (calls : Calls) (client : Client) : Draft :=
  applyAll calls.before { client }

/-- The draft after all calls. -/
def draft (calls : Calls) (client : Client) : Draft :=
  applyAll calls.after (match calls.body with
    | some b => b.apply (calls.opening client)
    | none => calls.opening client)

/-- The headers that the settings before the body set. -/
def openingFields (calls : Calls) : List Field :=
  calls.before.filterMap (·.field?)

/-- The headers that are set, one after the other. -/
def fields (calls : Calls) : List Field :=
  calls.openingFields ++
    (match calls.body with
      | some b => bodyFields (Fields.insertAll {} calls.openingFields) b.type b.sent.length
      | none => []) ++
    calls.after.filterMap (·.field?)

/-- The pairs that are added to the query. -/
def query (calls : Calls) : List (String × String) :=
  (calls.before ++ calls.after).filterMap (·.pair?)

theorem fields_opening : (calls.opening client).fields = .insertAll {} calls.openingFields :=
  fields_applyAll

theorem fields_draft : (calls.draft client).fields = .insertAll {} calls.fields := by
  rw [draft, fields_applyAll, fields, Fields.insertAll_append, Fields.insertAll_append]
  cases calls.body with
  | none => rw [fields_opening]; rfl
  | some b =>
    dsimp only
    rw [Body.apply_eq, fields_opening]

theorem query_draft : (calls.draft client).query = calls.query := by
  rw [draft, query_applyAll, query, List.filterMap_append]
  cases calls.body with
  | none => rw [opening, query_applyAll]; rfl
  | some b =>
    dsimp only
    rw [Body.apply_eq, opening, query_applyAll]
    rfl

theorem client_draft : (calls.draft client).client = client := by
  rw [draft, applyAll_keeps.1]
  cases calls.body with
  | none => exact applyAll_keeps.1
  | some b =>
    dsimp only
    rw [Body.apply_eq]
    exact applyAll_keeps.1

theorem body_draft : (calls.draft client).body = calls.body.map (·.sent) := by
  rw [draft, applyAll_keeps.2]
  cases calls.body with
  | none => exact applyAll_keeps.2
  | some b =>
    dsimp only
    rw [Body.apply_eq]
    rfl

/-- A draft without a failure has none in any of its calls. -/
theorem failure_draft (h : (calls.draft client).failure = none) :
    (∀ s ∈ calls.before, ∃ x, s.sets = .ok x) ∧ (∀ s ∈ calls.after, ∃ x, s.sets = .ok x) ∧
      ∀ b, calls.body = some b → ∃ o, b.content = .ok o := by
  obtain ⟨hbody, hafter⟩ := failure_applyAll h
  cases hb : calls.body with
  | none =>
    rw [hb] at hbody
    exact ⟨(failure_applyAll hbody).2, hafter, by simp⟩
  | some b =>
    simp only [hb, Body.apply_eq, orElse_eq_none_iff] at hbody
    refine ⟨(failure_applyAll hbody.1).2, hafter, ?_⟩
    rintro _ ⟨⟩
    exact failureOf_eq_none_iff.1 hbody.2

end Calls

end Draft

end Courier
