import Courier.Proofs.Draft.Request
import Courier.Proofs.Executor.Resending

/-!
# How the body of a draft is framed

A draft with a body is sent with the length of that body until a redirect changes the method. From
there on neither the body nor a header that describes it is sent. No attempt says one thing of its
content and sends another.
-/

namespace Courier

open Redirect

/-- A request that was written with its content: it says the length of the content once, and the
content is one frame. -/
structure Framed (d : Descriptor) (frames : List Frame) (o : Octets) : Prop where
  length : ∃ v, d.fields.getAll FieldName.contentLength.text = [v] ∧
    v.text? = some (Text.ofNat o.length)
  frames : frames = [.head d, .content o false, .terminal]

/-- A request that was written without content, and says nothing of content. -/
structure Bare (d : Descriptor) (frames : List Frame) : Prop where
  fields : BareOfContent d
  frames : frames = [.head d, .terminal]

namespace Executor.Leg

variable {patience : Duration} {l m : Leg} {k : Nat}

/-- While the method stays, so do the values of a name that is neither `Host` nor that of a
credential. -/
theorem getAll_of_keepsMethod (h : KeepsMethod patience l k)
    (hk : (l.legs patience)[k]? = some m) {n : FieldName} (hhost : n ≠ .host)
    (hn : n ∉ credentialFields) :
    m.request.fields.getAll n.text = l.request.fields.getAll n.text := by
  induction k generalizing m with
  | zero =>
    cases getElem?_legs_zero.symm.trans hk
    rfl
  | succ k ih =>
    obtain ⟨m₀, hm₀, hnext⟩ := exists_previous hk
    have hsame := h k m₀ m (Nat.lt_succ_self k) hm₀ hk
    obtain ⟨r, response, target, -, hrequest, -⟩ := hop_of_next? hnext
    rw [hrequest] at hsame ⊢
    rw [Rules.getAll_hop_of_method_eq hsame hhost hn]
    exact ih h.of_succ hm₀

/-- The frames of content that is given all at once. -/
theorem settled_once (request : Descriptor) (o : Octets) :
    (FrameSequence.start request { source := some (.once o) }).settled =
      [.frame (.head request), .frame (.content o false), .frame .terminal] := by
  rw [FrameSequence.settled_start]
  rfl

end Executor.Leg

namespace Draft

variable {d : Draft} {method : Method} {address : Text} {patience : Duration} {q : Request}

/-- The first leg of the execution that sends a request of a client. -/
def firstLeg (client : Client) (q : Request) : Executor.Leg :=
  { executor := { client.executor with readTimeout := q.readTimeout }
    request := q.descriptor
    content := q.content
    budget := q.redirects.budget }

theorem attempts_send (h : d.toRequest method address = .ok q) (patience : Duration) :
    (d.send method address patience).2.executor.peer.attempts =
      ((firstLeg d.client q).execute patience).2.peer.attempts := by
  unfold send
  rw [h]
  rfl

namespace Calls

variable {calls : Calls} {client : Client} {b : Body}

/-- The request of calls is one of the client with their headers set. -/
theorem exists_of_toRequest (hq : (calls.draft client).toRequest method address = .ok q) :
    ∃ q₀ : Request, q = (calls.draft client).finish (q₀.withFields (·.insertAll calls.fields)) := by
  obtain ⟨hvalid, a, ha⟩ := of_toRequest hq
  rw [toRequest_draft hvalid ha] at hq
  cases hrequest : client.request method (extendQuery a calls.query).toText with
  | error f =>
    rw [hrequest] at hq
    cases hq
  | ok q₀ =>
    rw [hrequest] at hq
    cases hq
    exact ⟨q₀, rfl⟩

/-- The length of the body is set before the headers of the later calls. -/
theorem exists_fields_eq (hbody : calls.body = some b) :
    ∃ earlier, calls.fields = earlier ++
      ⟨.contentLength, .ofNat b.sent.length⟩ :: calls.after.filterMap (·.field?) := by
  have hassoc : ∀ (opening types later : List Field) (f : Field),
      opening ++ (types ++ [f]) ++ later = (opening ++ types) ++ f :: later := by
    intro opening types later f
    simp
  simp only [fields, hbody, bodyFields]
  exact ⟨_, hassoc _ _ _ _⟩

/-- A call that can be used and names no length sets none. -/
theorem ne_contentLength_of_after (hvalid : (calls.draft client).failure = none)
    (hafter : ∀ s ∈ calls.after, s.names .contentLength = false) :
    ∀ f ∈ calls.after.filterMap (·.field?), f.name ≠ .contentLength := by
  intro f hf hname
  obtain ⟨s, hs, hfield⟩ := List.mem_filterMap.1 hf
  obtain ⟨x, hx⟩ := (failure_draft hvalid).2.1 s hs
  have hnames : s.names .contentLength = true :=
    (Setting.names_iff hx).2 ⟨f, (Setting.field?_of_sets hx).symm.trans hfield, hname⟩
  rw [hafter s hs] at hnames
  cases hnames

/-- The request of calls with a body has that body for its content, and says its length. -/
theorem framed_toRequest (hbody : calls.body = some b)
    (hafter : ∀ s ∈ calls.after, s.names .contentLength = false)
    (hq : (calls.draft client).toRequest method address = .ok q) :
    q.content = { source := some (.once b.sent) } ∧
      q.descriptor.fields.getAll FieldName.contentLength.text = [.ofNat b.sent.length] := by
  obtain ⟨q₀, rfl⟩ := exists_of_toRequest hq
  constructor
  · simp only [finish, body_draft, hbody]
    rfl
  · obtain ⟨earlier, hfields⟩ := exists_fields_eq hbody
    have hlater := ne_contentLength_of_after (of_toRequest hq).1 hafter
    simp only [finish, Request.withFields, Descriptor.withFields, hfields]
    exact Fields.getAll_insertAll_of_last (f := ⟨.contentLength, .ofNat b.sent.length⟩) hlater

/-- Each attempt at sending calls with a body, if it was written, either says the length of the
body and has it for its content, or it says nothing of content and has none. The latter is so from
the first redirect on that changed the method. -/
theorem framed_or_bare (hbody : calls.body = some b)
    (hafter : ∀ s ∈ calls.after, s.names .contentLength = false)
    (hq : (calls.draft client).toRequest method address = .ok q) (patience : Duration) :
    ((calls.draft client).send method address patience).2.executor.peer.attempts.length =
      client.executor.peer.attempts.length + ((firstLeg client q).legs patience).length ∧
    ∀ (k : Nat) (l : Executor.Leg) (c : Connection) (e : Executor),
      ((firstLeg client q).legs patience)[k]? = some l →
      l.executor.acquire l.request = (.ok c, e) → e.Writes c l.request l.content →
      ∃ record,
        ((calls.draft client).send method address patience).2.executor.peer.attempts[
          client.executor.peer.attempts.length + k]? = some record ∧
        record.target = l.request ∧
        ((firstLeg client q).KeepsMethod patience k →
          Framed record.target record.frames b.sent) ∧
        (¬ (firstLeg client q).KeepsMethod patience k → Bare record.target record.frames) := by
  have hsend := attempts_send hq patience
  rw [client_draft] at hsend
  rw [hsend]
  refine ⟨Executor.Leg.length_execute patience _, ?_⟩
  intro k l c e hk hacquire hwrites
  obtain ⟨hcontent, hlength⟩ := framed_toRequest hbody hafter hq
  obtain ⟨record, hrecord, htarget, hframes⟩ :=
    Executor.Leg.record_of_writes hk hacquire hwrites
  refine ⟨record, hrecord, htarget, ?_, ?_⟩
  · intro hkeeps
    have hsame : l.content = q.content := (Executor.Leg.same_of_keepsMethod hkeeps hk).2
    have hvalue : l.request.fields.getAll FieldName.contentLength.text =
        q.descriptor.fields.getAll FieldName.contentLength.text :=
      Executor.Leg.getAll_of_keepsMethod hkeeps hk (by decide) (by decide)
    rw [hsame, hcontent, Executor.Leg.settled_once] at hframes
    constructor
    · exact ⟨_, by rw [htarget, hvalue, hlength], FieldValue.text?_ofNat _⟩
    · rw [htarget]
      exact Executor.eq_of_map_frame_eq hframes
  · intro hchanged
    have hstripped := Executor.Leg.stripped_of_not_keepsMethod hchanged hk
    rw [hstripped.content, Executor.Leg.settled_empty] at hframes
    constructor
    · rw [htarget]
      exact hstripped.bare
    · rw [htarget]
      exact Executor.eq_of_map_frame_eq hframes

/-- A client whose peer answers every request with a status that leads to the root. -/
def roundClient (s : Status) : Client :=
  { executor := Executor.sentRound s, config := { followsRedirects := true } }

/-- A client without a name asks for a target as it is. -/
theorem request_eq {client : Client} {text : Text} {u : Uri} (hu : Uri.read text = .ok u)
    (hagent : client.config.userAgent = none) :
    client.request method text = .ok
      { descriptor := { version := client.config.version.toVersion, method, uri := u }
        redirects := client.config.redirectLimit
        readTimeout := client.executor.readTimeout } := by
  simp only [Client.request, Descriptor.parse, hu, hagent]
  rfl

/-- The request of the letter for a target. -/
def letterRequest (s : Status) (u : Uri) : Request :=
  (letter.draft (roundClient s)).finish
    (Request.withFields
      { descriptor := { method := .post, uri := u }
        redirects := (roundClient s).config.redirectLimit }
      (·.insertAll letter.fields))

theorem exists_letterRequest (s : Status) :
    ∃ u, (letter.draft (roundClient s)).toRequest .post "http://a.test/".toList =
      .ok (letterRequest s u) := by
  obtain ⟨a, ha⟩ : ∃ a, Web.Address.parse "http://a.test/".toList = .ok a := ⟨_, rfl⟩
  obtain ⟨u, hu⟩ : ∃ u, Uri.read a.toText = .ok u := by
    cases ha
    exact ⟨_, rfl⟩
  refine ⟨u, ?_⟩
  rw [toRequest_draft rfl ha, show extendQuery a letter.query = a from rfl, request_eq hu rfl]
  rfl

/-- The second attempt at sending the letter is written. -/
theorem exists_second_leg_letter {s : Status} (hs : s.isRedirect = true) (u : Uri) :
    ∃ l c e, ((firstLeg (roundClient s) (letterRequest s u)).legs .zero)[1]? = some l ∧
      l.request.method = methodAfter s .post ∧
      l.executor.acquire l.request = (.ok c, e) ∧ e.Writes c l.request l.content :=
  Executor.exists_second_leg_sentRound rfl rfl rfl hs

theorem keepsMethod_one_iff {l l' : Executor.Leg} (hk : (l.legs patience)[1]? = some l') :
    l.KeepsMethod patience 1 ↔ l'.request.method = l.request.method := by
  constructor
  · intro h
    exact h 0 l l' Nat.zero_lt_one Executor.Leg.getElem?_legs_zero hk
  · intro h j m m' hj hm hm'
    obtain rfl : j = 0 := Nat.lt_one_iff.1 hj
    cases Executor.Leg.getElem?_legs_zero.symm.trans hm
    cases hk.symm.trans hm'
    exact h

theorem body_letter : letter.body = some (.text "hi") := rfl

theorem names_after_letter : ∀ s ∈ letter.after, s.names .contentLength = false := by
  intro s hs
  cases List.mem_singleton.1 hs
  rfl

theorem framed_or_bare_letter :
    (∃ record, ((letter.draft (roundClient ⟨307⟩)).send .post "http://a.test/".toList
        .zero).2.executor.peer.attempts[1]? = some record ∧
      Framed record.target record.frames (Octets.ofString "hi")) ∧
    ∃ record, ((letter.draft (roundClient ⟨302⟩)).send .post "http://a.test/".toList
        .zero).2.executor.peer.attempts[1]? = some record ∧
      Bare record.target record.frames := by
  constructor
  · obtain ⟨u, hq⟩ := exists_letterRequest ⟨307⟩
    obtain ⟨l, c, e, hk, hmethod, hacquire, hwrites⟩ := exists_second_leg_letter (s := ⟨307⟩) rfl u
    obtain ⟨-, hattempts⟩ := framed_or_bare body_letter names_after_letter hq .zero
    obtain ⟨record, hrecord, -, hframed, -⟩ := hattempts 1 l c e hk hacquire hwrites
    exact ⟨record, hrecord, hframed ((keepsMethod_one_iff hk).2 hmethod)⟩
  · obtain ⟨u, hq⟩ := exists_letterRequest ⟨302⟩
    obtain ⟨l, c, e, hk, hmethod, hacquire, hwrites⟩ := exists_second_leg_letter (s := ⟨302⟩) rfl u
    obtain ⟨-, hattempts⟩ := framed_or_bare body_letter names_after_letter hq .zero
    obtain ⟨record, hrecord, -, -, hbare⟩ := hattempts 1 l c e hk hacquire hwrites
    refine ⟨record, hrecord, hbare ?_⟩
    intro hkeeps
    have hsame : Method.get = .post := hmethod.symm.trans ((keepsMethod_one_iff hk).1 hkeeps)
    exact absurd hsame (by decide)

end Calls

end Draft

end Courier
