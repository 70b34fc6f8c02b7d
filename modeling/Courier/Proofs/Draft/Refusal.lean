import Courier.Proofs.Base64
import Courier.Proofs.Config
import Courier.Proofs.Descriptor
import Courier.Proofs.Draft.Request
import Courier.Proofs.Executor.Failures
import Courier.Proofs.Response

/-!
# Drafts that cannot be sent

The first call whose input cannot be used decides what becomes of a draft: whatever is called
afterwards and wherever it is to be sent, sending it fails with the failure of that call and asks
for no connection. If all input can be used, then the only input left that may be refused is the
address.
-/

namespace Courier

namespace Draft

variable {d : Draft} {cause : Cause} {f : Failure}

/-! ## Calls -/

/-- What is wrong with the input of a setting. A user name and a password can always be used, since
they are not sent as they are. -/
inductive Setting.Invalid : Setting → Cause → Prop
  | name {name : Octets} {value : RawValue} (hname : ¬ name.IsName) :
    Invalid (.header name value) .fieldName
  | value {name : Octets} {value : RawValue} (hname : name.IsName) (hvalue : ¬ value.IsAcceptable) :
    Invalid (.header name value) .fieldValue
  | accept {type : String} (htype : ¬ IsValueText type) : Invalid (.accept type) .fieldValue
  | userAgent {agent : String} (hagent : ¬ IsValueText agent) :
    Invalid (.userAgent agent) .fieldValue
  | apiKey {key : String} (hkey : ¬ IsValueText key) : Invalid (.apiKey key) .credential
  | bearerAuth {token : String} (htoken : ¬ IsValueText token) :
    Invalid (.bearerAuth token) .credential

/-- What is wrong with a body: it cannot be written. -/
inductive Body.Invalid : Body → Cause → Prop
  | unnamed : Invalid .unnamed .jsonKey
  | form {value : Json} {e : Form.FormError} (he : Form.ofJson value = .error e) :
    Invalid (.form value) (.form e)
  | unwritable {type : MediaType} {cause : Cause} : Invalid (.unwritable type cause) cause

/-- One call: a setting or a body. -/
inductive Call
  | setting (s : Setting)
  | body (b : Body)

namespace Call

/-- The draft after the call. -/
def apply : Call → Draft → Draft
  | setting s, d => s.apply d
  | body b, d => b.apply d

/-- What is wrong with the input of a call. -/
def Invalid : Call → Cause → Prop
  | setting s, cause => s.Invalid cause
  | body b, cause => b.Invalid cause

/-- Nothing is wrong with the input of a call. -/
def Valid (x : Call) : Prop :=
  ∀ cause, ¬ x.Invalid cause

/-- The failure that a call makes. -/
def failure? : Call → Option Failure
  | setting s => failureOf s.sets
  | body b => failureOf b.content

/-- A failure that is there already stays the failure of the draft. -/
theorem failure_apply (x : Call) (d : Draft) :
    (x.apply d).failure = (d.failure <|> x.failure?) := by
  cases x with
  | setting s => exact Setting.failure_apply
  | body b =>
    change (b.apply d).failure = _
    rw [Body.apply_eq]
    rfl

end Call

theorem failureOf_checked (n : FieldName) {raw : RawValue} :
    failureOf (Setting.checked n raw.read) = some f ↔
      ¬ raw.IsAcceptable ∧ f = .ofCause .builder .fieldValue := by
  by_cases hraw : raw.IsAcceptable
  · obtain ⟨v, hv, -⟩ := RawValue.read_of_isAcceptable hraw
    rw [hv]
    simp [Setting.checked, Except.map, failureOf, hraw]
  · rw [RawValue.read_of_not_isAcceptable hraw]
    simp [Setting.checked, Except.map, failureOf, hraw, eq_comm]

theorem failureOf_credential (n : FieldName) {value : String} :
    failureOf (Setting.credential n value) = some f ↔
      ¬ IsValueText value ∧ f = .ofCause .builder .credential := by
  rw [← FieldValue.ofString?_eq_none_iff]
  unfold Setting.credential
  cases FieldValue.ofString? value with
  | none => simp [failureOf, eq_comm]
  | some v => simp [failureOf]

theorem isValueText_basic (user : String) (password : Option String) :
    IsValueText ("Basic " ++ String.ofList (basicCredentials user password)) := by
  rw [isValueText_append (isValueText_iff.2 (by decide))]
  intro b hb
  have hvisible : (Octets.ofText (basicCredentials user password)).all FieldValue.isVisible = true :=
    FieldValue.all_isVisible_ofText fun c => Base64.isVisibleChar_of_mem_encode
  exact FieldValue.isFieldOctet_of_isVisible (List.all_eq_true.1 hvisible b hb)

/-- A setting makes a failure just if something is wrong with its input. -/
theorem Setting.failureOf_sets_iff (s : Setting) :
    failureOf s.sets = some f ↔ ∃ cause, s.Invalid cause ∧ f = .ofCause .builder cause := by
  constructor
  · intro h
    cases s with
    | header name value =>
      by_cases hname : name.IsName
      · obtain ⟨n, hn, -⟩ := FieldName.read_of_isName hname
        rw [sets, hn] at h
        obtain ⟨hvalue, rfl⟩ := (failureOf_checked n).1 h
        exact ⟨_, .value hname hvalue, rfl⟩
      · rw [sets, FieldName.read_of_not_isName hname] at h
        cases h
        exact ⟨_, .name hname, rfl⟩
    | accept type =>
      obtain ⟨htype, rfl⟩ := (failureOf_checked _).1 h
      exact ⟨_, .accept htype, rfl⟩
    | userAgent agent =>
      obtain ⟨hagent, rfl⟩ := (failureOf_checked _).1 h
      exact ⟨_, .userAgent hagent, rfl⟩
    | apiKey key =>
      obtain ⟨hkey, rfl⟩ := (failureOf_credential _).1 h
      exact ⟨_, .apiKey hkey, rfl⟩
    | basicAuth user password =>
      exact absurd (isValueText_basic user password) ((failureOf_credential _).1 h).1
    | bearerAuth token =>
      obtain ⟨htoken, rfl⟩ := (failureOf_credential _).1 h
      rw [isValueText_append (isValueText_iff.2 (by decide))] at htoken
      exact ⟨_, .bearerAuth htoken, rfl⟩
    | contentType type | query key value | redirects limit | readTimeout limit => cases h
  · rintro ⟨cause, hinvalid, rfl⟩
    cases hinvalid with
    | name hname =>
      rw [sets, FieldName.read_of_not_isName hname]
      rfl
    | value hname hvalue =>
      obtain ⟨n, hn, -⟩ := FieldName.read_of_isName hname
      rw [sets, hn]
      exact (failureOf_checked n).2 ⟨hvalue, rfl⟩
    | accept htype => exact (failureOf_checked _).2 ⟨htype, rfl⟩
    | userAgent hagent => exact (failureOf_checked _).2 ⟨hagent, rfl⟩
    | apiKey hkey => exact (failureOf_credential _).2 ⟨hkey, rfl⟩
    | bearerAuth htoken =>
      refine (failureOf_credential _).2 ⟨?_, rfl⟩
      rwa [isValueText_append (isValueText_iff.2 (by decide))]

/-- A call makes a failure just if something is wrong with its input. -/
theorem Call.failure?_iff {x : Call} :
    x.failure? = some f ↔ ∃ cause, x.Invalid cause ∧ f = .ofCause .builder cause := by
  cases x with
  | setting s => exact s.failureOf_sets_iff
  | body b =>
    constructor
    · intro h
      cases b with
      | unnamed =>
        cases h
        exact ⟨_, .unnamed, rfl⟩
      | form value =>
        cases hvalue : Form.ofJson value with
        | ok t => simp [failure?, Body.content, hvalue, failureOf] at h
        | error e =>
          simp only [failure?, Body.content, hvalue, failureOf] at h
          cases h
          exact ⟨_, .form hvalue, rfl⟩
      | unwritable type cause =>
        cases h
        exact ⟨cause, .unwritable, rfl⟩
      | json value | pairs list | octets o | text t | written type o => cases h
    · rintro ⟨cause, hinvalid, rfl⟩
      cases hinvalid with
      | unnamed => rfl
      | form he => simp [failure?, Body.content, he, failureOf]
      | unwritable => rfl

/-- The failure of a draft is that of the first call that makes one. -/
theorem failure_foldl (list : List Call) (d : Draft) :
    (list.foldl (fun d x => x.apply d) d).failure =
      (d.failure <|> list.findSome? (·.failure?)) := by
  induction list generalizing d with
  | nil => cases h : d.failure <;> simp [h]
  | cons x rest ih =>
    rw [List.foldl_cons, ih, Call.failure_apply, List.findSome?_cons]
    cases d.failure with
    | some g => rfl
    | none => cases x.failure? <;> rfl

namespace Calls

variable {calls : Calls} {client : Client}

/-- The calls one after the other. -/
def list (calls : Calls) : List Call :=
  calls.before.map .setting ++ calls.body.toList.map .body ++ calls.after.map .setting

theorem foldl_setting (settings : List Setting) (d : Draft) :
    (settings.map Call.setting).foldl (fun d x => x.apply d) d = applyAll settings d := by
  rw [List.foldl_map]
  rfl

theorem draft_eq_foldl (calls : Calls) (client : Client) :
    calls.draft client = calls.list.foldl (fun d x => x.apply d) { client } := by
  unfold list
  rw [List.foldl_append, List.foldl_append, foldl_setting, foldl_setting, draft]
  cases calls.body <;> rfl

theorem failure_of_first {earlier later : List Call} {x : Call}
    (hlist : calls.list = earlier ++ x :: later) (hearlier : ∀ y ∈ earlier, y.Valid)
    (hinvalid : x.Invalid cause) :
    (calls.draft client).failure = some (.ofCause .builder cause) := by
  have hfirst : calls.list.findSome? (·.failure?) = some (.ofCause .builder cause) := by
    rw [List.findSome?_eq_some_iff]
    refine ⟨earlier, x, later, hlist, Call.failure?_iff.2 ⟨cause, hinvalid, rfl⟩, ?_⟩
    intro y hy
    rw [Option.eq_none_iff_forall_ne_some]
    intro f hf
    obtain ⟨c, hc, -⟩ := Call.failure?_iff.1 hf
    exact hearlier y hy c hc
  rw [draft_eq_foldl, failure_foldl, hfirst]
  rfl

theorem failure_of_valid (hvalid : ∀ x ∈ calls.list, x.Valid) :
    (calls.draft client).failure = none := by
  have hnone : calls.list.findSome? (·.failure?) = none := by
    rw [List.findSome?_eq_none_iff]
    intro x hx
    rw [Option.eq_none_iff_forall_ne_some]
    intro f hf
    obtain ⟨c, hc, -⟩ := Call.failure?_iff.1 hf
    exact hvalid x hx c hc
  rw [draft_eq_foldl, failure_foldl, hnone]
  rfl

/-- Calls fail for input that cannot be used, or all of their input can be used. -/
theorem failure_cases (calls : Calls) (client : Client) :
    (∃ cause, (calls.draft client).failure = some (.ofCause .builder cause)) ∨
      ((calls.draft client).failure = none ∧ ∀ x ∈ calls.list, x.Valid) := by
  have hfailure : (calls.draft client).failure = calls.list.findSome? (·.failure?) := by
    rw [draft_eq_foldl, failure_foldl]
    rfl
  cases hfirst : calls.list.findSome? (·.failure?) with
  | some f =>
    obtain ⟨x, hx, hf⟩ := List.exists_of_findSome?_eq_some hfirst
    obtain ⟨cause, -, rfl⟩ := Call.failure?_iff.1 hf
    exact .inl ⟨cause, hfailure.trans hfirst⟩
  | none =>
    refine .inr ⟨hfailure.trans hfirst, fun x hx cause hinvalid => ?_⟩
    have hnone := List.findSome?_eq_none_iff.1 hfirst x hx
    rw [Call.failure?_iff.2 ⟨cause, hinvalid, rfl⟩] at hnone
    cases hnone

end Calls

end Draft

/-! ## Clients -/

/-- A client as it can be made: with the usual settings or with checked ones, whatever its executor
was told and did since. -/
inductive Client.Made : Client → Prop
  | ofPeer (peer : Peer) : Made (.ofPeer peer)
  | ofConfig {peer : Peer} {config : Config} {client : Client}
    (hclient : Client.ofConfig peer config = .ok client) : Made client
  | withExecutor {client : Client} (hclient : Made client) (e : Executor) :
    Made { client with executor := e }

namespace Client

variable {client : Client} {method : Method} {text : Text}

theorem Made.validate (h : client.Made) : client.config.validate = .ok () := by
  induction h with
  | ofPeer peer => rfl
  | ofConfig hclient =>
    rename_i peer config client
    unfold Client.ofConfig at hclient
    split at hclient
    · next hvalid =>
      cases hclient
      exact hvalid
    · cases hclient
  | withExecutor _ _ ih => exact ih

/-- The name of a client can be a header value. -/
theorem Made.isValueText (h : client.Made) {agent : String}
    (hagent : client.config.userAgent = some agent) : IsValueText agent :=
  (Config.agentUsable_of_validate h.validate agent hagent).2

/-- A client refuses a request only if its target cannot be read. -/
theorem Made.request_cases (h : client.Made) (method : Method) (text : Text) :
    (∃ e, Uri.parse text = .error e ∧
      client.request method text = .error (.ofCause .builder (.uri e))) ∨
    (∃ q, Uri.parse text = .ok q.descriptor.uri ∧ client.request method text = .ok q) := by
  cases htext : Uri.parse text with
  | error e =>
    refine .inl ⟨e, rfl, ?_⟩
    simp only [request, Descriptor.parse, Uri.read, htext]
    rfl
  | ok u =>
    have hmade : ∃ q, u = q.descriptor.uri ∧ client.request method text = .ok q := by
      simp only [request, Descriptor.parse, Uri.read, htext]
      cases hagent : client.config.userAgent with
      | none => exact ⟨_, rfl, rfl⟩
      | some agent =>
        have hvalue : (RawValue.octets (.ofString agent)).IsAcceptable := h.isValueText hagent
        obtain ⟨v, hv, -⟩ := RawValue.read_of_isAcceptable hvalue
        simp only [Descriptor.setHeader, Draft.Setting.read_text, hv]
        exact ⟨_, rfl, rfl⟩
    obtain ⟨q, rfl, hq⟩ := hmade
    exact .inr ⟨q, rfl, hq⟩

end Client

/-! ## Executions -/

/-- No execution fails for input that cannot be used. -/
theorem Executor.stage_ne_builder_of_execute {e : Executor} {patience : Duration}
    {request : Descriptor} {content : Content} {budget : Redirect.Budget} {f : Failure}
    (h : (e.execute patience request content budget).1 = .failed f) : f.stage ≠ .builder := by
  obtain ⟨k, l, hk, hlast⟩ := Leg.exists_last patience (.mk e request content budget)
  have hexecute : e.execute patience request content budget = l.attempt patience :=
    (Leg.execute_of_last hk hlast).2
  rw [hexecute] at h
  obtain ⟨hfails, -⟩ := (attempted l.executor patience l.request l.content).failsAt
  intro hstage
  have hbuilder := (hfails f h).1
  rw [hstage] at hbuilder
  cases hbuilder

/-- The body of a response that was just delivered fails as a body. -/
theorem Executor.stage_of_bytes {e : Executor} {patience : Duration} {request : Descriptor}
    {content : Content} {budget : Redirect.Budget} {r : Response} {f : Failure}
    (h : (e.execute patience request content budget).1 = .done r) (hf : r.bytes.1 = .failed f) :
    f.stage = .body := by
  obtain ⟨messages, -, hawaits⟩ := Response.awaits_of_execute (Prod.ext h rfl)
  rw [Response.bytes, (Response.bytesAfter_eq [] hawaits.speaks).1, hawaits.unread_eq,
    Body.gathered] at hf
  split at hf
  · next hfailure =>
    cases hf
    exact Body.stage_of_failure? hfailure
  · cases hf

/-! ## Sending -/

namespace Draft

variable {d : Draft} {method : Method} {address : Text} {patience : Duration} {f : Failure}

/-- A draft is refused with a failure, whatever is asked of the address, and its client is left as
it is, so that no connection is asked for. -/
def Refused (d : Draft) (address : Text) (f : Failure) : Prop :=
  ∀ patience, (∀ method, d.send method address patience = (.failed f, d.client)) ∧
    d.getJson address patience = (.failed f, d.client)

theorem refused_of_toRequest (h : ∀ method, d.toRequest method address = .error f) :
    d.Refused address f := by
  intro patience
  have hsend : ∀ method, d.send method address patience = (.failed f, d.client) := by
    intro method
    rw [send, h method]
  refine ⟨hsend, ?_⟩
  rw [getJson, hsend]

/-- What fails for input that cannot be used gave no request. -/
theorem toRequest_of_send (hf : f.stage = .builder)
    (h : (d.send method address patience).1 = .failed f) :
    d.toRequest method address = .error f := by
  unfold send at h
  split at h
  · exact absurd hf (Executor.stage_ne_builder_of_execute h)
  · next g hg =>
    cases h
    exact hg

theorem toRequest_of_getJson (hf : f.stage = .builder)
    (h : (d.getJson address patience).1 = .failed f) : d.toRequest .get address = .error f := by
  unfold getJson at h
  split at h
  · next r client hsend =>
    dsimp only at h
    split at h
    · next g hbytes =>
      cases h
      unfold send at hsend
      split at hsend
      · next q hq =>
        have hdone : (d.client.execute q patience).1 = .done r := congrArg Prod.fst hsend
        have hstage : f.stage = .body := Executor.stage_of_bytes hdone hbytes
        rw [hf] at hstage
        cases hstage
      · cases hsend
    · cases h
    · split at h
      · cases h
      · cases h
        cases hf
  · next g client hsend =>
    cases h
    exact toRequest_of_send hf (congrArg Prod.fst hsend)
  · cases h

namespace Calls

variable {calls : Calls} {client : Client}

/-- Why an address is refused: it is none, or with the query of the calls it cannot be the target
of a request. -/
inductive AddressRefused (calls : Calls) (address : Text) : Failure → Prop
  | address {e : Web.AddressError} (he : Web.Address.parse address = .error e) :
    AddressRefused calls address (.ofCause .builder (.address e))
  | uri {a : Web.Address} {e : UriError} (ha : Web.Address.parse address = .ok a)
    (he : Uri.parse (extendQuery a calls.query).toText = .error e) :
    AddressRefused calls address (.ofCause .builder (.uri e))

theorem toRequest_eq_error_iff (hfailure : (calls.draft client).failure = none)
    (hclient : client.Made) : (calls.draft client).toRequest method address = .error f ↔
      calls.AddressRefused address f := by
  cases ha : Web.Address.parse address with
  | error e =>
    rw [toRequest_of_error hfailure ha]
    constructor
    · rintro ⟨⟩
      exact .address ha
    · rintro (he | ⟨ha', -⟩)
      · cases he.symm.trans ha
        rfl
      · cases ha'.symm.trans ha
  | ok a =>
    rw [toRequest_draft hfailure ha]
    rcases hclient.request_cases method (extendQuery a calls.query).toText with
      ⟨e, he, hrequest⟩ | ⟨q, hu, hrequest⟩
    · rw [hrequest]
      constructor
      · rintro ⟨⟩
        exact .uri ha he
      · rintro (he' | ⟨ha', he'⟩)
        · cases he'.symm.trans ha
        · cases ha'.symm.trans ha
          cases he'.symm.trans he
          rfl
    · rw [hrequest]
      constructor
      · rintro ⟨⟩
      · rintro (he' | ⟨ha', he'⟩)
        · cases he'.symm.trans ha
        · cases ha'.symm.trans ha
          cases he'.symm.trans hu

/-- **The first input that cannot be used decides.** Calls of which one has such input are refused
with the failure of the first of them, whatever is called after it and whatever the address is. If
all input can be used, then a draft is refused for input just if its address is refused. -/
theorem refused_for_first (hclient : client.Made) (address : Text) :
    (∀ earlier x later cause, calls.list = earlier ++ x :: later → (∀ y ∈ earlier, y.Valid) →
      x.Invalid cause → (calls.draft client).Refused address (.ofCause .builder cause)) ∧
    ((∀ x ∈ calls.list, x.Valid) → ∀ f,
      (calls.AddressRefused address f → (calls.draft client).Refused address f) ∧
      (f.stage = .builder → ∀ patience,
        (∀ method, ((calls.draft client).send method address patience).1 = .failed f →
          calls.AddressRefused address f) ∧
        (((calls.draft client).getJson address patience).1 = .failed f →
          calls.AddressRefused address f))) := by
  constructor
  · intro earlier x later cause hlist hearlier hinvalid
    apply refused_of_toRequest
    intro method
    exact toRequest_of_failure (failure_of_first hlist hearlier hinvalid)
  · intro hvalid f
    have hfailure : (calls.draft client).failure = none := failure_of_valid hvalid
    refine ⟨fun h => ?_, fun hf patience => ⟨fun method h => ?_, fun h => ?_⟩⟩
    · apply refused_of_toRequest
      intro method
      exact (toRequest_eq_error_iff hfailure hclient).2 h
    · exact (toRequest_eq_error_iff hfailure hclient).1 (toRequest_of_send hf h)
    · exact (toRequest_eq_error_iff hfailure hclient).1 (toRequest_of_getJson hf h)

/-- A key that breaks the line, between a pair of the query and a body that cannot be written. -/
def garbled : Calls :=
  { before := [.query "a" "b", .apiKey "\n"]
    body := some .unnamed
    after := [.header [] (.number 1)] }

theorem refused_for_first_garbled :
    (∀ address, (garbled.draft (.ofPeer { script := .list [] })).Refused address
      (.ofCause .builder .credential)) ∧
    ∃ e, (Calls.draft {} (.ofPeer { script := .list [] })).Refused "/a".toList
      (.ofCause .builder (.address e)) := by
  constructor
  · intro address
    obtain ⟨hfirst, -⟩ := refused_for_first (.ofPeer { script := .list [] }) address
    refine hfirst [.setting (.query "a" "b")] (.setting (.apiKey "\n")) _ .credential rfl ?_
      (.apiKey ?_)
    · intro y hy cause hinvalid
      cases List.mem_singleton.1 hy
      cases hinvalid
    · rw [isValueText_iff]
      decide
  · obtain ⟨e, he⟩ : ∃ e, Web.Address.parse "/a".toList = .error e := ⟨_, rfl⟩
    have hvalid : ∀ x ∈ Calls.list {}, x.Valid := fun x hx => absurd hx List.not_mem_nil
    have hmade : (Client.ofPeer { script := .list [] }).Made := .ofPeer _
    exact ⟨e, ((refused_for_first hmade "/a".toList).2 hvalid _).1 (.address he)⟩

end Calls

end Draft

end Courier
