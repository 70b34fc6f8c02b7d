import Courier.Proofs.Executor.Transcript

/-!
# What an attempt depends on

An attempt asks the correlator for one id and for the context of that id, so that what the
correlator would answer to anything else has no part in it. It reads only after its write succeeded,
so that otherwise the messages of the connection have no part in it.
-/

namespace Courier

/-! ## Connections -/

namespace Peer

variable {p : Peer} {c : Connection} {messages : List (Except Failure Inbound)}

theorem writeFrames_messages {polls : List FramePoll} :
    p.writeFrames { c with messages } polls = p.writeFrames c polls := by
  induction polls generalizing p with
  | nil => rfl
  | cons poll rest ih =>
    cases poll with
    | frame f =>
      simp only [writeFrames, ih]
      rfl
    | failed f => rfl
    | pending => rfl

theorem write_messages {polls : List FramePoll} :
    p.write { c with messages } polls = p.write c polls := by
  simp only [write, writeFrames_messages]

theorem attach_messages {context : Context} :
    p.attach { c with messages } context =
      ((p.attach c context).1.map fun c => { c with messages }, (p.attach c context).2) := by
  have hfire : p.fire { c with messages } context = p.fire c context := rfl
  unfold attach
  rw [hfire]
  split <;> rfl

end Peer

/-! ## Correlators -/

/-- Two correlators that answer alike when they are asked for one id and for the context of that
id. -/
structure Correlator.AnswerAlike (κ κ' : Correlator) (request : Descriptor) : Prop where
  id : κ'.idFor (κ'.asked + 1) request = κ.idFor (κ.asked + 1) request
  context : ∀ id, κ.idFor (κ.asked + 1) request = .ok id →
    κ'.contextFor (κ'.consulted + 1) id = κ.contextFor (κ.consulted + 1) id

theorem Correlator.AnswerAlike.identify {κ κ' : Correlator} {request : Descriptor}
    (h : κ.AnswerAlike κ' request) :
    κ'.identify request = ((κ.identify request).1, κ'.afterIdentify request) := by
  have hidentity : κ'.identity request = κ.identity request := by
    unfold identity
    rw [h.id]
    split
    · rfl
    · next id hid => rw [h.context id hid]
  rw [identify_eq, identify_eq, hidentity]

namespace Executor

variable {e : Executor} {c : Connection} {request : Descriptor} {content : Content}
  {patience : Duration} {κ κ' : Correlator}

/-! ## Sources of identities -/

/-- The executor with another source of identities. -/
def withCorrelator (e : Executor) (correlator : Option Correlator) : Executor :=
  { e with correlator }

section Reports

variable {correlator : Option Correlator}

theorem report_withCorrelator {change : Metrics → Metrics} :
    (e.withCorrelator correlator).report change =
      (e.report change).withCorrelator correlator := by
  cases hsink : e.sink <;> simp [report, withCorrelator, hsink]

theorem beginWrite_withCorrelator :
    (e.withCorrelator correlator).beginWrite =
      (e.beginWrite.1, e.beginWrite.2.withCorrelator correlator) := by
  have hreports : (e.withCorrelator correlator).reports = e.reports := rfl
  simp only [beginWrite, hreports, report_withCorrelator]
  split <;> rfl

theorem endWrite_withCorrelator {reported succeeded : Bool} {elapsed : Duration} :
    (e.withCorrelator correlator).endWrite reported succeeded elapsed =
      (e.endWrite reported succeeded elapsed).withCorrelator correlator := by
  simp only [endWrite, report_withCorrelator]
  split
  · rfl
  · split <;> rfl

theorem write_withCorrelator :
    (e.withCorrelator correlator).write c request content =
      ((e.write c request content).1, (e.write c request content).2.withCorrelator correlator) := by
  unfold write
  rw [beginWrite_withCorrelator]
  generalize e.beginWrite = begun
  obtain ⟨reported, e₁⟩ := begun
  have hpeer : (e₁.withCorrelator correlator).peer = e₁.peer := rfl
  have hafter : ∀ peer, { e₁.withCorrelator correlator with peer } =
      ({ e₁ with peer } : Executor).withCorrelator correlator := fun _ => rfl
  simp only [hpeer, hafter, endWrite_withCorrelator]
  generalize e₁.peer.write c _ = written
  obtain ⟨written, peer⟩ := written
  cases written <;> rfl

end Reports

/-! ## Attempts -/

theorem acquire_withCorrelator (correlator : Option Correlator) :
    (e.withCorrelator correlator).acquire request =
      ((e.acquire request).1, (e.acquire request).2.withCorrelator correlator) := rfl

theorem attach_of_answerAlike (hκ : e.correlator = some κ) (h : κ.AnswerAlike κ' request) :
    (e.withCorrelator (some κ')).attach c request =
      ((e.attach c request).1, (e.attach c request).2.withCorrelator
        (some (κ'.afterIdentify request))) := by
  unfold attach withCorrelator
  simp only [hκ, h.identify]
  split <;> rfl

theorem converse_of_answerAlike (hκ : e.correlator = some κ) (h : κ.AnswerAlike κ' request) :
    (e.withCorrelator (some κ')).converse patience c request content =
      ((e.converse patience c request content).1,
        (e.converse patience c request content).2.withCorrelator
          (some (κ'.afterIdentify request))) := by
  unfold converse
  rw [attach_of_answerAlike hκ h]
  generalize e.attach c request = attached
  obtain ⟨f | c₁, e₁⟩ := attached
  · rfl
  dsimp only
  rw [write_withCorrelator]
  generalize e₁.write c₁ request content = written
  obtain ⟨f | _, e₂⟩ := written
  · rfl
  · rfl

/-- **An attempt asks for one id and its context.** Of two correlators that answer alike to those
two, an attempt makes the same, and it asks each of them for one identity. -/
theorem attempt_of_answerAlike (hκ : e.correlator = some κ) (h : κ.AnswerAlike κ' request)
    {e₁ : Executor} (hacquire : e.acquire request = (.ok c, e₁)) :
    (e.withCorrelator (some κ')).attempt patience request content =
      ((e.attempt patience request content).1,
        (e.attempt patience request content).2.withCorrelator
          (some (κ'.afterIdentify request))) := by
  have hκ₁ : e₁.correlator = some κ := by
    obtain ⟨x, -, -, -, rfl⟩ := acquire_eq_ok hacquire
    exact hκ
  have hacquire' : (e.withCorrelator (some κ')).acquire request =
      (.ok c, e₁.withCorrelator (some κ')) := by
    have hacquired : (e.withCorrelator (some κ')).acquire request = _ :=
      acquire_withCorrelator (some κ')
    rwa [hacquire] at hacquired
  simp only [attempt, hacquire, hacquire', converse_of_answerAlike hκ₁ h]
  generalize e₁.converse patience c request content = conversed
  obtain ⟨ending, e₂⟩ := conversed
  cases ending <;> rfl

/-- An attempt that acquires no connection asks nothing. -/
theorem attempt_withCorrelator_of_error {correlator : Option Correlator} {f : Failure}
    {e₁ : Executor} (hacquire : e.acquire request = (.error f, e₁)) :
    (e.withCorrelator correlator).attempt patience request content =
      (.failed f, e₁.withCorrelator correlator) := by
  have hacquired : (e.withCorrelator correlator).acquire request = _ :=
    acquire_withCorrelator correlator
  rw [hacquire] at hacquired
  simp only [attempt, hacquired]

theorem attach_messages (messages : List (Except Failure Inbound)) :
    e.attach { c with messages } request =
      ((e.attach c request).1.map fun c => { c with messages }, (e.attach c request).2) := by
  unfold attach
  split
  · rfl
  · dsimp only
    split
    · rfl
    · rw [Peer.attach_messages]

theorem write_messages {messages : List (Except Failure Inbound)} :
    e.write { c with messages } request content = e.write c request content := by
  simp only [write, Peer.write_messages]

/-- An attempt whose write does not succeed reads nothing. -/
theorem converse_messages_of_not_writes (h : ¬ e.Writes c request content)
    (messages : List (Except Failure Inbound)) :
    e.converse patience { c with messages } request content =
      e.converse patience c request content := by
  have hattach : e.attach { c with messages } request = _ := attach_messages messages
  unfold converse
  rw [hattach]
  cases hattached : e.attach c request with
  | mk attached e₁ =>
  cases attached with
  | error f => rfl
  | ok c₁ =>
  dsimp only [Except.map]
  rw [write_messages]
  cases hwritten : e₁.write c₁ request content with
  | mk written e₂ =>
  cases written with
  | error f => rfl
  | ok _ => exact absurd ⟨c₁, e₁, e₂, hattached, hwritten⟩ h

end Executor

end Courier
