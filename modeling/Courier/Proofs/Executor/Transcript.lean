import Courier.Proofs.Executor.Run
import Courier.Proofs.Executor.Stages

/-!
# What an attempt tells

The record of an attempt tells, in this order, of the control event that carries its identity and
of the frames of its request.
-/

namespace Courier

/-- The record of a connection that took these control events and then these frames. -/
def Attempt.told (request : Descriptor) (id : Nat) (control : List Context) (frames : List Frame)
    (error : Option String) (closed : Bool) : Attempt :=
  { target := request
    connection := some id
    control
    frames
    timeline := control.map (fun _ => .control) ++ frames.map fun f => .frame f.kind
    writeError := error
    closed }

theorem Attempt.told_nothing {request : Descriptor} {id : Nat} :
    told request id [] [] none false = { target := request, connection := some id } := rfl

theorem Attempt.sawWrite_told {request : Descriptor} {id : Nat} {control : List Context}
    {frames : List Frame} {error reason : Option String} {closed : Bool} :
    (told request id control [] error closed).sawWrite frames reason =
      told request id control frames reason closed := by
  simp [told, sawWrite]

/-- Whether an attempt brought a response. -/
def Ending.isDone {α : Type} : Ending α → Bool
  | done _ => true
  | failed _ | abandoned => false

/-- Reading takes messages from a connection and leaves the rest of it as it was. -/
theorem Connection.eq_of_read {c d : Connection} {reading : Reading} (h : c.read = (reading, d)) :
    ∃ messages, d = { c with messages } := by
  unfold read at h
  split at h <;> cases h <;> exact ⟨_, rfl⟩

namespace Executor

variable {e e₁ e₂ : Executor} {c c₁ : Connection} {request : Descriptor} {content : Content}
  {patience : Duration} {before : List Attempt} {a : Attempt}

/-! ## Connections -/

theorem told_of_acquire (h : e.acquire request = (.ok c, e₁)) :
    c.correlation = none ∧ e₁.correlator = e.correlator ∧
      e₁.peer.Recording c e.peer.attempts (.told request c.id [] [] none false) := by
  rw [Attempt.told_nothing]
  obtain ⟨x, -, -, rfl, rfl⟩ := acquire_eq_ok h
  exact ⟨rfl, rfl, rfl, rfl⟩

/-! ## Identities -/

/-- What attaching gave a connection: nothing without a correlator, and otherwise the identity
that the correlator gave when it was asked for one. -/
inductive Identified (e : Executor) (c : Connection) (request : Descriptor) :
    Option Context → Prop
  | anonymous (correlator : e.correlator = none) : Identified e c request none
  | named {κ : Correlator} {context : Context} (correlator : e.correlator = some κ)
    (identity : κ.identity request = .ok context)
    (control : c.exchange.TakesControl) : Identified e c request (some context)

/-- Where an identity was attached, the correlator was asked for one id and for one container. -/
theorem Identified.map_afterIdentify {context : Option Context}
    (h : Identified e c request context) :
    e.correlator.map (·.afterIdentify request) = e.correlator.map (·.after 1) := by
  cases h with
  | anonymous hnone => rw [hnone]; rfl
  | named hsome hidentity =>
    rw [hsome, Option.map_some, Option.map_some, Correlator.afterIdentify_of_identity hidentity]

theorem attach_eq_ok (h : e.attach c request = (.ok c₁, e₁)) (hc : c.correlation = none)
    (hrecord : e.peer.Recording c before (.told request c.id [] [] none false)) :
    ∃ context, Identified e c request context ∧ c₁ = { c with correlation := context } ∧
      e₁.correlator = e.correlator.map (·.after 1) ∧
      e₁.peer.Recording c₁ before (.told request c.id context.toList [] none false) := by
  cases hcorrelator : e.correlator with
  | none =>
    rw [attach_of_none hcorrelator] at h
    cases h
    refine ⟨none, .anonymous hcorrelator, ?_, hcorrelator, hrecord⟩
    rw [← hc]
  | some κ =>
    rcases attach_cases hcorrelator c request with
      ⟨context, hidentity, hcontrol, hattach⟩ | ⟨-, f, -, hattach⟩
    · rw [hattach] at h
      cases h
      have hnew := hrecord.record (·.sawControl context)
      exact ⟨some context, .named hcorrelator hidentity hcontrol, rfl, rfl, hnew.attempts,
        hnew.place⟩
    · rw [hattach] at h
      cases h

theorem attach_eq_error {f : Failure} (h : e.attach c request = (.error f, e₁)) :
    f.stage = .write ∧ e₁.peer = e.peer ∧
      e₁.correlator = e.correlator.map (·.afterIdentify request) ∧
      ∃ κ, e.correlator = some κ ∧
        ∀ context, κ.identity request = .ok context → ¬ c.exchange.TakesControl := by
  cases hcorrelator : e.correlator with
  | none =>
    rw [attach_of_none hcorrelator] at h
    cases h
  | some κ =>
    rcases attach_cases hcorrelator c request with
      ⟨context, -, -, hattach⟩ | ⟨hnot, g, hg, hattach⟩
    · rw [hattach] at h
      cases h
    · rw [hattach] at h
      cases h
      exact ⟨hg, rfl, rfl, κ, rfl, hnot⟩

/-! ## Attempts -/

/-- The write of a connection succeeds, after its identity has been attached. -/
def Writes (e : Executor) (c : Connection) (request : Descriptor) (content : Content) : Prop :=
  ∃ c₁ e₁ e₂, e.attach c request = (.ok c₁, e₁) ∧ e₁.write c₁ request content = (.ok (), e₂)

/-- What the record of a connection tells: without a correlator there is no control event, and with
one there is either the event and then the frames, or nothing at all. The frames are those at the
front of the sequence of the request, and all of them just if the write succeeded. -/
structure Tells (e : Executor) (c : Connection) (request : Descriptor) (content : Content)
    (control : List Context) (frames : List Frame) : Prop where
  identity : (∃ context, Identified e c request context ∧ control = context.toList) ∨
    ((∀ context, ¬ Identified e c request context) ∧ control = [] ∧ frames = [])
  front : frames.map .frame <+: (FrameSequence.start request content).settled
  all : frames.map .frame = (FrameSequence.start request content).settled ↔
    e.Writes c request content

/-- The record that an attempt leaves of the connection that it acquired, what it asked the
correlator, and what is known of the response that it brought. -/
structure Transcript (e e₁ : Executor) (c : Connection) (request : Descriptor) (content : Content)
    (ending : Ending Response) (e' : Executor) (control : List Context) (frames : List Frame)
    (error : Option String) : Prop where
  tells : Tells e₁ c request content control frames
  correlator : e'.correlator = e.correlator.map (·.afterIdentify request)
  answered : ending.isDone = true → e'.correlator = e.correlator.map (·.after 1)
  attempts : e'.peer.attempts =
    e.peer.attempts ++ [.told request c.id control frames error !ending.isDone]
  response : ∀ r, ending = .done r → r.connection.id = c.id ∧
    r.connection.attempt = e.peer.attempts.length ∧
    r.connection.correlation = control.head?

theorem writes_iff (hattach : e.attach c request = (.ok c₁, e₁)) :
    e.Writes c request content ↔ (e₁.write c₁ request content).1 = .ok () := by
  constructor
  · rintro ⟨c₂, e₂, e₃, hagain, hwrite⟩
    cases hattach.symm.trans hagain
    rw [hwrite]
  · intro hwrite
    exact ⟨c₁, e₁, (e₁.write c₁ request content).2, hattach, Prod.ext hwrite rfl⟩

/-- The record of a connection after its identity has been attached and the frames have gone out. -/
theorem tells_of_attach (hattach : e.attach c request = (.ok c₁, e₁)) (content : Content)
    (hc : c.correlation = none)
    (hrecord : e.peer.Recording c before (.told request c.id [] [] none false)) :
    ∃ context frames error, c₁ = { c with correlation := context } ∧
      Tells e c request content context.toList frames ∧
      e.correlator.map (·.afterIdentify request) = e.correlator.map (·.after 1) ∧
      (e₁.write c₁ request content).2.correlator = e.correlator.map (·.after 1) ∧
      (e₁.write c₁ request content).2.peer.Recording c before
        (.told request c.id context.toList frames error false) := by
  obtain ⟨context, hidentified, hc₁, hcorrelator, hrecord₁⟩ := attach_eq_ok hattach hc hrecord
  obtain ⟨⟨frames, error, hfront, hframes, hall⟩, hsame⟩ :=
    wrote_write request content hrecord₁
  rw [Attempt.sawWrite_told] at hframes
  refine ⟨context, frames, error, hc₁, ⟨.inl ⟨context, hidentified, rfl⟩, hfront, ?_⟩,
    hidentified.map_afterIdentify, hsame.trans hcorrelator, hframes.attempts, hrecord.place⟩
  rw [← hall, writes_iff hattach]

/-- The record of a connection to which no identity could be attached. -/
theorem tells_of_attach_error {f : Failure} (hattach : e.attach c request = (.error f, e₁))
    (content : Content) : Tells e c request content [] [] := by
  obtain ⟨-, -, -, κ, hκ, hnot⟩ := attach_eq_error hattach
  refine ⟨.inr ⟨?_, rfl, rfl⟩, List.nil_prefix, ?_⟩
  · intro context hidentified
    cases hidentified with
    | anonymous hnone => cases hκ.symm.trans hnone
    | named hcorrelator hidentity hcontrol =>
      cases hκ.symm.trans hcorrelator
      exact hnot _ hidentity hcontrol
  · constructor
    · intro hempty
      rw [FrameSequence.settled_start] at hempty
      cases hempty
    · rintro ⟨c₁, e₁, e₂, hagain, -⟩
      cases hattach.symm.trans hagain

theorem connection_of_readHead {response : Response}
    (h : e.readHead patience c = .done response) :
    ∃ messages, response.connection = { c with messages } := by
  have hread : ∃ reading, c.read = (reading, response.connection) := by
    unfold readHead at h
    split at h
    · next hread =>
      cases h
      exact ⟨_, hread⟩
    · cases h
    · cases h
    · cases h
    · split at h
      · split at h <;> cases h
      · cases h
  obtain ⟨reading, hread⟩ := hread
  exact Connection.eq_of_read hread

theorem attempts_close {id : Nat} {control : List Context} {frames : List Frame}
    {error : Option String}
    (h : e.peer.Recording c before (.told request id control frames error false)) :
    (e.close c).peer.attempts = before ++ [.told request id control frames error true] :=
  h.close.attempts

/-- Every attempt that acquires a connection leaves a transcript. -/
theorem transcript (hacquire : e.acquire request = (.ok c, e₁)) (patience : Duration)
    (content : Content) :
    ∃ control frames error, Transcript e e₁ c request content
      (e.attempt patience request content).1 (e.attempt patience request content).2
      control frames error := by
  obtain ⟨hnone, hsame, hrecord⟩ := told_of_acquire hacquire
  have hattempted := attempted e patience request content
  generalize e.attempt patience request content = result at hattempted ⊢
  obtain ⟨ending, e'⟩ := result
  dsimp only at hattempted ⊢
  cases hattempted with
  | unacquired hnot => cases hacquire.symm.trans hnot
  | unattached hagain hattach =>
    cases hacquire.symm.trans hagain
    obtain ⟨-, hpeer, hasked, -⟩ := attach_eq_error hattach
    rw [hsame] at hasked
    exact ⟨[], [], none, tells_of_attach_error hattach content, hasked, nofun,
      attempts_close (hrecord.of_attempts (congrArg Peer.attempts hpeer)), fun _ h => (nomatch h)⟩
  | unwritten hagain hattach hwrite =>
    cases hacquire.symm.trans hagain
    obtain ⟨context, frames, error, -, htells, hgiven, hasked, hframes⟩ :=
      tells_of_attach hattach content hnone hrecord
    rw [hwrite] at hasked hframes
    rw [hsame] at hasked hgiven
    exact ⟨context.toList, frames, error, htells, hasked.trans hgiven.symm, nofun,
      attempts_close hframes, fun _ h => (nomatch h)⟩
  | unanswered hagain hattach hwrite hread hending =>
    cases hacquire.symm.trans hagain
    obtain ⟨context, frames, error, -, htells, hgiven, hasked, hframes⟩ :=
      tells_of_attach hattach content hnone hrecord
    rw [hwrite] at hasked hframes
    rw [hsame] at hasked hgiven
    refine ⟨context.toList, frames, error, htells, hasked.trans hgiven.symm, fun _ => hasked, ?_,
      fun r hr => absurd hr (hending r)⟩
    cases ending with
    | done r => exact absurd rfl (hending r)
    | failed f => exact attempts_close hframes
    | abandoned => exact attempts_close hframes
  | answered hagain hattach hwrite hread =>
    cases hacquire.symm.trans hagain
    obtain ⟨context, frames, error, rfl, htells, hgiven, hasked, hframes⟩ :=
      tells_of_attach hattach content hnone hrecord
    rw [hwrite] at hasked hframes
    rw [hsame] at hasked hgiven
    obtain ⟨messages, hconnection⟩ := connection_of_readHead hread
    refine ⟨context.toList, frames, error, htells, hasked.trans hgiven.symm, fun _ => hasked,
      hframes.attempts, ?_⟩
    rintro r ⟨⟩
    rw [hconnection]
    exact ⟨rfl, hrecord.place, by cases context <;> rfl⟩

end Executor

end Courier
