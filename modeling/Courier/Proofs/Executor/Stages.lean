import Courier.Proofs.Executor.Attempt
import Courier.Proofs.Failure
import Courier.Proofs.Peer.Record

/-!
# The stages of an attempt

What each stage of an attempt comes to, what it adds to the record of the connection, and how often
it asks the correlator. An attempt goes in one of five ways, by the stage that it ends with.
-/

namespace Courier

/-! ## Correlators -/

theorem mapError_ok {ε ε' α : Type} (f : ε → ε') (a : α) :
    (Except.ok a : Except ε α).mapError f = .ok a := rfl

namespace Correlator

/-- The identity that a correlator gives when it is asked for one: its next id, and the container
of that id. -/
def identity (κ : Correlator) (request : Descriptor) : Except Failure Context :=
  match κ.idFor (κ.asked + 1) request with
  | .error f => .error f
  | .ok requestId =>
    (κ.contextFor (κ.consulted + 1) requestId).map fun container => { requestId, container }

/-- The correlator after it was asked for `n` more ids and for as many containers. -/
def after (κ : Correlator) (n : Nat) : Correlator :=
  { κ with asked := κ.asked + n, consulted := κ.consulted + n }

@[simp]
theorem after_zero (κ : Correlator) : κ.after 0 = κ := rfl

/-- The correlator after it was asked for an identity: for one id, and if it gave one, for the
container of that id. -/
def afterIdentify (κ : Correlator) (request : Descriptor) : Correlator :=
  match κ.idFor (κ.asked + 1) request with
  | .error _ => { κ with asked := κ.asked + 1 }
  | .ok _ => κ.after 1

theorem identify_eq (κ : Correlator) (request : Descriptor) :
    κ.identify request = ((κ.identity request).mapError (Failure.reclassify · .write),
      κ.afterIdentify request) := by
  unfold identify nextId identity afterIdentify
  cases κ.idFor (κ.asked + 1) request with
  | error f => rfl
  | ok id =>
    simp only [nextContext]
    cases κ.contextFor (κ.consulted + 1) id <;> rfl

theorem identity_eq_ok_iff {κ : Correlator} {request : Descriptor} {context : Context} :
    κ.identity request = .ok context ↔
      κ.idFor (κ.asked + 1) request = .ok context.requestId ∧
        κ.contextFor (κ.consulted + 1) context.requestId = .ok context.container := by
  obtain ⟨id, container⟩ := context
  unfold identity
  cases κ.idFor (κ.asked + 1) request with
  | error f => simp
  | ok id' =>
    dsimp only
    rw [Except.ok.injEq]
    constructor
    · intro h
      cases hcontainer : κ.contextFor (κ.consulted + 1) id' with
      | error f =>
        rw [hcontainer] at h
        cases h
      | ok container' =>
        rw [hcontainer] at h
        cases h
        exact ⟨rfl, hcontainer⟩
    · rintro ⟨rfl, hcontainer⟩
      rw [hcontainer]
      rfl

/-- A correlator that gave an identity was asked for one id and for one container. -/
theorem afterIdentify_of_identity {κ : Correlator} {request : Descriptor} {context : Context}
    (h : κ.identity request = .ok context) : κ.afterIdentify request = κ.after 1 := by
  rw [afterIdentify, (identity_eq_ok_iff.1 h).1]

end Correlator

namespace Executor

variable {e e₁ : Executor} {c : Connection} {request : Descriptor} {content : Content}
  {patience : Duration} {before : List Attempt} {a : Attempt}

/-! ## Acquiring -/

/-- What is known after an acquisition that gave a connection. -/
theorem acquire_eq_ok (h : e.acquire request = (.ok c, e₁)) :
    ∃ x, e.peer.script.next.1 = some x ∧ x.GivesConnection ∧ c = e.peer.connectionFor x ∧
      e₁ = { e with
        peer := e.peer.afterAcquisition (e.peer.connected + 1)
          { target := request, connection := some (e.peer.connected + 1) } } := by
  unfold acquire at h
  rcases Peer.acquire_cases e.peer request with
    ⟨-, hp⟩ | ⟨x, hx, hconduct, ⟨f, -, hp⟩ | ⟨hnone, hp⟩⟩
  · rw [hp] at h
    cases h
  · rw [hp] at h
    cases h
  · rw [hp] at h
    cases h
    exact ⟨x, hx, ⟨hnone, hconduct⟩, rfl, rfl⟩

/-- The record of an acquisition that failed: there was no connection, or it was closed again. -/
inductive Unacquired (p : Peer) (request : Descriptor) : Nat → Attempt → Prop
  | refused : Unacquired p request p.connected { target := request, connection := none }
  | dropped : Unacquired p request (p.connected + 1)
      { target := request, connection := some (p.connected + 1), closed := true }

/-- What is known after an acquisition that failed. -/
theorem acquire_eq_error {f : Failure} (h : e.acquire request = (.error f, e₁)) :
    (∀ x, e.peer.script.next.1 = some x → ¬ x.GivesConnection) ∧
      f.stage = .connect ∧ f.uri? = some request.uri ∧
      ∃ connected a, Unacquired e.peer request connected a ∧
        e₁ = { e with peer := e.peer.afterAcquisition connected a } := by
  unfold acquire at h
  rcases Peer.acquire_cases e.peer request with
    ⟨hrefused, hp⟩ | ⟨x, hx, -, ⟨g, hg, hp⟩ | ⟨-, hp⟩⟩
  · rw [hp] at h
    cases h
    refine ⟨fun x hx hgives => hgives.conduct (hrefused x hx), ?_, rfl, _, _, .refused, rfl⟩
    rw [Failure.stage_withUri, Failure.stage_reclassify]
  · rw [hp] at h
    cases h
    refine ⟨?_, ?_, rfl, _, _, .dropped, rfl⟩
    · intro y hy hgives
      cases hx.symm.trans hy
      cases hg.symm.trans hgives.acquire
    · rw [Failure.stage_withUri, Failure.stage_reclassify]
  · rw [hp] at h
    cases h

/-! ## Attaching -/

theorem attach_of_none (h : e.correlator = none) : e.attach c request = (.ok c, e) := by
  unfold attach
  rw [h]

/-- All that attaching can do with a correlator, which it asks for one identity: it attaches the
identity that the correlator gives, or it fails and leaves the peer as it was. -/
theorem attach_cases {κ : Correlator} (h : e.correlator = some κ) (c : Connection)
    (request : Descriptor) :
    (∃ context, κ.identity request = .ok context ∧ c.exchange.TakesControl ∧
      e.attach c request = (.ok { c with correlation := some context },
        { e with
          correlator := some (κ.after 1)
          peer := e.peer.record c (·.sawControl context) })) ∨
    ((∀ context, κ.identity request = .ok context → ¬ c.exchange.TakesControl) ∧
      ∃ f, f.stage = .write ∧
        e.attach c request =
          (.error f, { e with correlator := some (κ.afterIdentify request) })) := by
  unfold attach
  simp only [h, Correlator.identify_eq]
  cases hidentity : κ.identity request with
  | error f =>
    exact .inr ⟨fun _ h => (nomatch h), _, f.stage_reclassify .write, rfl⟩
  | ok context =>
    by_cases hcontrol : c.exchange.TakesControl
    · refine .inl ⟨context, rfl, hcontrol, ?_⟩
      simp only [mapError_ok, Peer.attach, Peer.fire_of_takesControl hcontrol,
        Correlator.afterIdentify_of_identity hidentity]
    · obtain ⟨f, hfire⟩ := Peer.fire_of_not_takesControl (p := e.peer) hcontrol context
      refine .inr ⟨fun _ _ => hcontrol, _, f.stage_reclassify .write, ?_⟩
      simp only [mapError_ok, Peer.attach, hfire]

/-- Attaching leaves all of a connection as it was but its identity. -/
theorem eq_of_attach {c₁ : Connection} (h : e.attach c request = (.ok c₁, e₁)) :
    ∃ context, c₁ = { c with correlation := context } := by
  cases hκ : e.correlator with
  | none =>
    rw [attach_of_none hκ] at h
    cases h
    exact ⟨c.correlation, rfl⟩
  | some κ =>
    rcases attach_cases hκ c request with ⟨context, -, -, hattach⟩ | ⟨-, f, -, hattach⟩
    · cases hattach.symm.trans h
      exact ⟨some context, rfl⟩
    · cases hattach.symm.trans h

/-! ## Writing -/

/-- Reports change neither the records nor the correlator. -/
structure SameButReports (e e₁ : Executor) : Prop where
  attempts : e₁.peer.attempts = e.peer.attempts
  correlator : e₁.correlator = e.correlator

theorem sameButReports_report {change : Metrics → Metrics} :
    SameButReports e (e.report change) := by
  unfold report
  split <;> exact ⟨rfl, rfl⟩

theorem sameButReports_beginWrite : SameButReports e e.beginWrite.2 := by
  unfold beginWrite
  split
  · exact sameButReports_report
  · exact ⟨rfl, rfl⟩

theorem sameButReports_endWrite {reported succeeded : Bool} {elapsed : Duration} :
    SameButReports e (e.endWrite reported succeeded elapsed) := by
  unfold endWrite
  split
  · exact ⟨rfl, rfl⟩
  · split <;> exact sameButReports_report

/-- A write does what the peer does with the frames of the request, and reports it. Whatever goes
wrong is a failure of writing. -/
theorem write_eq (e : Executor) (c : Connection) (request : Descriptor) (content : Content) :
    ∃ p : Peer, p.attempts = e.peer.attempts ∧
      SameButReports
        { e with peer := (p.write c (FrameSequence.start request content).settled).2 }
        (e.write c request content).2 ∧
      ((e.write c request content).1 = .ok () ↔
        (p.write c (FrameSequence.start request content).settled).1 = .done) ∧
      ∀ f, (e.write c request content).1 = .error f → f.stage = .write := by
  have hbegin := sameButReports_beginWrite (e := e)
  have hwaits := Peer.write_ne_suspended (p := e.beginWrite.2.peer) (c := c)
    (Peer.settled_start request content)
  unfold write
  generalize e.beginWrite = begun at hbegin hwaits ⊢
  obtain ⟨reported, e₁⟩ := begun
  refine ⟨e₁.peer, hbegin.attempts, ?_⟩
  dsimp only at hwaits ⊢
  generalize e₁.peer.write c (FrameSequence.start request content).settled = wrote at hwaits ⊢
  obtain ⟨written, p⟩ := wrote
  have hend : ∀ succeeded, SameButReports { e with peer := p }
      (endWrite { e₁ with peer := p } reported succeeded .zero) := by
    intro succeeded
    have hsame : SameButReports { e₁ with peer := p }
        (endWrite { e₁ with peer := p } reported succeeded .zero) := sameButReports_endWrite
    exact ⟨hsame.attempts, hsame.correlator.trans hbegin.correlator⟩
  cases written with
  | failed f =>
    refine ⟨hend false, by simp, ?_⟩
    rintro g ⟨⟩
    exact f.stage_reclassify .write
  | done => exact ⟨hend true, by simp, by simp⟩
  | suspended => exact absurd rfl hwaits

theorem settled_start_ne_nil : (FrameSequence.start request content).settled ≠ [] := by
  rw [FrameSequence.settled_start]
  simp

/-- What is known after a write. -/
theorem wrote_write (request : Descriptor) (content : Content)
    (hrecord : e.peer.Recording c before a) :
    Peer.Recording.Wrote (e.write c request content).2.peer c before a
      (FrameSequence.start request content).settled ((e.write c request content).1 = .ok ()) ∧
    (e.write c request content).2.correlator = e.correlator := by
  obtain ⟨p, hp, hsame, hok, -⟩ := write_eq e c request content
  obtain ⟨frames, error, hfront, hframes, hall⟩ :=
    (hrecord.of_attempts hp).wrote_write (Peer.settled_start request content) settled_start_ne_nil
  refine ⟨⟨frames, error, hfront, hframes.of_attempts hsame.attempts, ?_⟩, hsame.correlator⟩
  rw [hok, hall]

/-! ## Attempts -/

/-- The ways in which an attempt goes, by the stage that it ends with. -/
inductive Attempted (e : Executor) (patience : Duration) (request : Descriptor)
    (content : Content) : Ending Response → Executor → Prop
  | unacquired {f : Failure} {e₁ : Executor} (acquire : e.acquire request = (.error f, e₁)) :
    Attempted e patience request content (.failed f) e₁
  | unattached {c : Connection} {f : Failure} {e₁ e₂ : Executor}
    (acquire : e.acquire request = (.ok c, e₁))
    (attach : e₁.attach c request = (.error f, e₂)) :
    Attempted e patience request content (.failed f) (e₂.close c)
  | unwritten {c c₂ : Connection} {f : Failure} {e₁ e₂ e₃ : Executor}
    (acquire : e.acquire request = (.ok c, e₁))
    (attach : e₁.attach c request = (.ok c₂, e₂))
    (write : e₂.write c₂ request content = (.error f, e₃)) :
    Attempted e patience request content (.failed f) (e₃.close c)
  | unanswered {c c₂ : Connection} {ending : Ending Response} {e₁ e₂ e₃ : Executor}
    (acquire : e.acquire request = (.ok c, e₁))
    (attach : e₁.attach c request = (.ok c₂, e₂))
    (write : e₂.write c₂ request content = (.ok (), e₃))
    (read : e₃.readHead patience c₂ = ending) (unfinished : ∀ r, ending ≠ .done r) :
    Attempted e patience request content ending (e₃.close c)
  | answered {c c₂ : Connection} {r : Response} {e₁ e₂ e₃ : Executor}
    (acquire : e.acquire request = (.ok c, e₁))
    (attach : e₁.attach c request = (.ok c₂, e₂))
    (write : e₂.write c₂ request content = (.ok (), e₃))
    (read : e₃.readHead patience c₂ = .done r) :
    Attempted e patience request content (.done r) e₃

theorem attempted (e : Executor) (patience : Duration) (request : Descriptor)
    (content : Content) :
    Attempted e patience request content (e.attempt patience request content).1
      (e.attempt patience request content).2 := by
  rcases hacquire : e.acquire request with ⟨f | c, e₁⟩
  · simp only [attempt, hacquire]
    exact .unacquired hacquire
  rcases hattach : e₁.attach c request with ⟨f | c₂, e₂⟩
  · simp only [attempt, converse, hacquire, hattach]
    exact .unattached hacquire hattach
  rcases hwrite : e₂.write c₂ request content with ⟨f | _, e₃⟩
  · simp only [attempt, converse, hacquire, hattach, hwrite]
    exact .unwritten hacquire hattach hwrite
  simp only [attempt, converse, hacquire, hattach, hwrite]
  cases hread : e₃.readHead patience c₂ with
  | done r => exact .answered hacquire hattach hwrite hread
  | failed f => exact .unanswered hacquire hattach hwrite hread (by simp)
  | abandoned => exact .unanswered hacquire hattach hwrite hread (by simp)

end Executor

end Courier
