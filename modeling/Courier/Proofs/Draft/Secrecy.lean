import Courier.Proofs.Draft.Request
import Courier.Proofs.Fields.Veil
import Courier.Proofs.Redirect.Credentials

/-!
# Credentials and inspections

A draft marks every credential as not to be shown. Two drafts that differ in their credentials alone
have requests that look alike under inspection, and so do the requests of all redirects.
-/

namespace Courier

open Redirect

/-! ## Requests -/

/-- A descriptor without the octets of sensitive values. -/
def Descriptor.veil (d : Descriptor) : Descriptor :=
  d.withFields Fields.veil

/-- A request without the octets of sensitive values. -/
def Request.veil (q : Request) : Request :=
  q.withFields Fields.veil

theorem Descriptor.inspect_veil (d : Descriptor) : inspect d.veil = inspect d := by
  change Inspect.record "RequestDescriptor" [("version", inspect d.version),
    ("method", inspect d.method), ("uri", d.uri.toString), ("headers", inspect d.fields.veil)] = _
  rw [Fields.inspect_veil]
  rfl

theorem Request.inspect_veil (q : Request) : inspect q.veil = inspect q := by
  change Inspect.openRecord "HttpClientRequest" [("descriptor", inspect q.descriptor.veil),
    ("content", inspect q.content), ("redirects", inspect q.redirects)] = _
  rw [Descriptor.inspect_veil]
  rfl

/-! ## Redirects -/

namespace Redirect

theorem veil_eraseAll (names : List FieldName) (h : Fields) :
    (eraseAll names h).veil = eraseAll names h.veil := by
  induction names generalizing h with
  | nil => rfl
  | cons n rest ih =>
    rw [eraseAll, List.foldl_cons, ← eraseAll, ih, Fields.veil_erase]
    rfl

theorem veil_renameHost (h : Fields) (target : Uri) :
    (renameHost h target).veil = renameHost h.veil target := by
  unfold renameHost
  rw [Fields.contains_veil]
  split
  · cases hvalue : target.authority?.bind fun a =>
        FieldValue.ofOctets? (Octets.ofText a.text) with
    | none => rfl
    | some value =>
      -- A value that is read from octets is not sensitive, and the veil leaves it.
      obtain ⟨a, -, hread⟩ := Option.bind_eq_some_iff.1 hvalue
      dsimp only
      rw [Fields.veil_insert, FieldValue.veil_of_ofOctets? hread]
  · rfl

/-- A hop looks at no header value. -/
theorem veil_nextHop (strips : Bool) (d : Descriptor) (status : Status) (target : Uri) :
    (nextHop strips d status target).request.veil =
      (nextHop strips d.veil status target).request := by
  have hif : ∀ (b : Bool) (h k : Fields),
      (if b then h else k).veil = if b then h.veil else k.veil := by
    intro b h k
    cases b <;> rfl
  simp only [nextHop, Descriptor.veil, Descriptor.withFields, hif, veil_renameHost, veil_eraseAll]
  rfl

theorem Rules.veil_chain (r : Rules) (d : Descriptor) (turns : List Turn) :
    (r.chain d turns).map Descriptor.veil = r.chain d.veil turns := by
  induction turns generalizing d with
  | nil => rfl
  | cons turn rest ih =>
    rw [chain, chain, List.map_cons, ih]
    rw [hop, veil_nextHop, hop]

end Redirect

/-- What a programmer is shown of a request and of its redirects. -/
structure Shown where
  request : String
  /-- The descriptor and its header list, for the request and then for each hop. -/
  chain : List (String × String)
deriving DecidableEq

/-- What is shown of a request that is redirected by these turns. -/
def Request.shown (r : Rules) (turns : List Turn) (q : Request) : Shown :=
  { request := inspect q
    chain := (r.chain q.descriptor turns).map fun d => (inspect d, inspect d.fields) }

theorem Request.shown_veil (r : Rules) (turns : List Turn) (q : Request) :
    q.veil.shown r turns = q.shown r turns := by
  have hpair : ∀ d : Descriptor,
      (inspect d.veil, inspect d.veil.fields) = (inspect d, inspect d.fields) := by
    intro d
    exact Prod.ext d.inspect_veil d.fields.inspect_veil
  have hchain : r.chain q.veil.descriptor turns = (r.chain q.descriptor turns).map (·.veil) :=
    (r.veil_chain q.descriptor turns).symm
  rw [shown, shown, inspect_veil, hchain, List.map_map]
  congr 1
  exact List.map_congr_left fun d _ => hpair d

/-! ## Drafts -/

namespace Draft

/-- A draft without the octets of sensitive values. -/
def veil (d : Draft) : Draft :=
  { d with fields := d.fields.veil }

variable {d d' : Draft}

theorem veil_finish (d : Draft) (q : Request) :
    (d.finish (q.withFields d.fields.replay)).veil =
      d.veil.finish (q.veil.withFields d.veil.fields.replay) := by
  simp only [Request.veil, Request.withFields, Descriptor.withFields, finish, Fields.veil_replay]
  rfl

theorem veil_veil (d : Draft) : d.veil.veil = d.veil := by
  simp [veil]

/-- The veil of a request depends on the veil of its draft alone. -/
theorem veil_toRequest (d : Draft) (method : Method) (address : Text) :
    (d.toRequest method address).map Request.veil =
      (d.veil.toRequest method address).map Request.veil := by
  cases hd : d.failure with
  | some f =>
    have hveil : d.veil.failure = some f := hd
    rw [toRequest_of_failure hd, toRequest_of_failure hveil]
  | none =>
    have hveil : d.veil.failure = none := hd
    cases ha : Web.Address.parse address with
    | error e => rw [toRequest_of_error hd ha, toRequest_of_error hveil ha]
    | ok a =>
      rw [toRequest_eq hd ha, toRequest_eq hveil ha]
      change (Except.map _ (d.client.request method (extendQuery a d.query).toText)).map _ =
        (Except.map _ (d.client.request method (extendQuery a d.query).toText)).map _
      cases d.client.request method (extendQuery a d.query).toText with
      | error f => rfl
      | ok q =>
        refine congrArg Except.ok ?_
        dsimp only
        rw [veil_finish, veil_finish, veil_veil]

theorem veil_take (x : Except Failure (Option Field)) :
    (d.take x).veil = d.veil.take (x.map (·.map Field.veil)) := by
  cases x with
  | error f => rfl
  | ok x =>
    cases x with
    | none => rfl
    | some f =>
      rw [take_some]
      change _ = d.veil.take (.ok (some f.veil))
      rw [take_some]
      simp only [veil, setField, Fields.veil_insert]
      rfl

/-! ## Calls -/

/-- Two calls that can be used and differ in no more than the credential that they give. -/
inductive Setting.Alike : Setting → Setting → Prop
  | same (s : Setting) : Alike s s
  | apiKey {key key' : String} (h : ∃ x, (Setting.apiKey key).sets = .ok x)
      (h' : ∃ x, (Setting.apiKey key').sets = .ok x) : Alike (.apiKey key) (.apiKey key')
  | basicAuth {user user' : String} {password password' : Option String}
      (h : ∃ x, (Setting.basicAuth user password).sets = .ok x)
      (h' : ∃ x, (Setting.basicAuth user' password').sets = .ok x) :
      Alike (.basicAuth user password) (.basicAuth user' password')
  | bearerAuth {token token' : String} (h : ∃ x, (Setting.bearerAuth token).sets = .ok x)
      (h' : ∃ x, (Setting.bearerAuth token').sets = .ok x) :
      Alike (.bearerAuth token) (.bearerAuth token')

namespace Setting

variable {s s' : Setting}

/-- Nothing of an accepted credential is left under the veil. -/
theorem veil_credential {name : FieldName} {value : String}
    (h : ∃ x, credential name value = .ok x) :
    (credential name value).map (·.map Field.veil) = .ok (some ⟨name, .veiled⟩) := by
  obtain ⟨x, h⟩ := h
  unfold credential at h ⊢
  cases hv : FieldValue.ofString? value with
  | none =>
    rw [hv] at h
    cases h
  | some v => rfl

theorem Alike.veil_sets (h : Alike s s') :
    s.sets.map (·.map Field.veil) = s'.sets.map (·.map Field.veil) := by
  cases h with
  | same => rfl
  | apiKey h h' => exact (veil_credential h).trans (veil_credential h').symm
  | basicAuth h h' => exact (veil_credential h).trans (veil_credential h').symm
  | bearerAuth h h' => exact (veil_credential h).trans (veil_credential h').symm

/-- What a call changes apart from the headers does not depend on a credential. -/
theorem Alike.settings_eq (h : Alike s s') :
    s.pair? = s'.pair? ∧ s.limit? = s'.limit? ∧ s.timeout? = s'.timeout? := by
  cases h <;> exact ⟨rfl, rfl, rfl⟩

theorem veil_apply (s : Setting) (d : Draft) :
    (s.apply d).veil = { d.veil.take (s.sets.map (·.map Field.veil)) with
      query := d.veil.query ++ s.pair?.toList
      redirects := s.limit? <|> d.veil.redirects
      readTimeout := s.timeout? <|> d.veil.readTimeout } := by
  rw [apply_eq, ← veil_take]
  rfl

/-- Calls that are alike keep drafts alike. -/
theorem Alike.veil_apply (h : Alike s s') (hd : d.veil = d'.veil) :
    (s.apply d).veil = (s'.apply d').veil := by
  obtain ⟨hpair, hlimit, htimeout⟩ := h.settings_eq
  rw [Setting.veil_apply, Setting.veil_apply, h.veil_sets, hpair, hlimit, htimeout, hd]

end Setting

theorem veil_applyAll {settings settings' : List Setting}
    (h : List.Forall₂ Setting.Alike settings settings') (hd : d.veil = d'.veil) :
    (applyAll settings d).veil = (applyAll settings' d').veil := by
  induction h generalizing d d' with
  | nil => exact hd
  | cons hs _ ih => exact ih (hs.veil_apply hd)

theorem veil_bodyFields (h : Fields) (type : MediaType) (length : Nat) :
    (bodyFields h type length).map Field.veil = bodyFields h.veil type length := by
  have htype : type.toValue.veil = type.toValue := by
    cases type <;> rfl
  have hfield : (⟨.contentType, type.toValue⟩ : Field).veil = ⟨.contentType, type.toValue⟩ :=
    congrArg (Field.mk _) htype
  unfold bodyFields
  rw [Fields.contains_veil, List.map_append]
  split
  · rfl
  · rw [List.map_singleton, hfield]
    rfl

theorem Body.veil_apply (b : Body) (d : Draft) : (b.apply d).veil = b.apply d.veil := by
  rw [apply_eq, apply_eq]
  simp only [veil, Fields.veil_insertAll, veil_bodyFields]

/-- Two sequences of calls that differ in no more than the credentials that they give. -/
structure Calls.Alike (calls calls' : Calls) : Prop where
  before : List.Forall₂ Setting.Alike calls.before calls'.before
  body : calls.body = calls'.body
  after : List.Forall₂ Setting.Alike calls.after calls'.after

namespace Calls

variable {calls calls' : Calls} {client : Client} {method : Method} {address : Text}

theorem Alike.veil_draft (h : Alike calls calls') :
    (calls.draft client).veil = (calls'.draft client).veil := by
  have hopening : (calls.opening client).veil = (calls'.opening client).veil :=
    veil_applyAll h.before rfl
  unfold draft
  apply veil_applyAll h.after
  rw [h.body]
  cases calls'.body with
  | none => exact hopening
  | some b => exact (b.veil_apply _).trans ((congrArg b.apply hopening).trans (b.veil_apply _).symm)

/-- What is shown of the request of some calls, and of all its redirects, is the same with any other
credentials. -/
theorem shown_of_alike (h : Alike calls calls') (r : Rules) (turns : List Turn) :
    ((calls.draft client).toRequest method address).map (·.shown r turns) =
      ((calls'.draft client).toRequest method address).map (·.shown r turns) := by
  have hshown : ∀ d : Draft, (d.toRequest method address).map (·.shown r turns) =
      ((d.veil.toRequest method address).map Request.veil).map (·.shown r turns) := by
    intro d
    rw [← veil_toRequest]
    cases d.toRequest method address with
    | error f => rfl
    | ok q => exact congrArg Except.ok (q.shown_veil r turns).symm
  rw [hshown, hshown, h.veil_draft]

/-- The letter with another key. -/
def relocked : Calls :=
  { letter with after := [.bearerAuth "lock"] }

theorem shown_of_alike_relocked :
    (letter.draft named).fields.getAll FieldName.authorization.text ≠
        (relocked.draft named).fields.getAll FieldName.authorization.text ∧
      ∃ shown, ((letter.draft named).toRequest .post "http://a.test/".toList).map
          (·.shown {} Rules.roundTrip) = .ok shown ∧
        ((relocked.draft named).toRequest .post "http://a.test/".toList).map
          (·.shown {} Rules.roundTrip) = .ok shown := by
  have halike : Alike letter relocked :=
    { before := .cons (.same _) (.cons (.same _) .nil)
      body := rfl
      after := .cons (.bearerAuth ⟨_, rfl⟩ ⟨_, rfl⟩) .nil }
  obtain ⟨q, hq⟩ := exists_toRequest_letter
  have hletter : ((letter.draft named).toRequest .post "http://a.test/".toList).map
      (·.shown {} Rules.roundTrip) = .ok (q.shown {} Rules.roundTrip) := by
    rw [hq]
    rfl
  exact ⟨by decide, _, hletter, (shown_of_alike halike {} Rules.roundTrip).symm.trans hletter⟩

end Calls

end Draft

end Courier
