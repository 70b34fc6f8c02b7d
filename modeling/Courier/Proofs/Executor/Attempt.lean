import Courier.Executor
import Courier.Proofs.Peer

/-!
# What an attempt does

An attempt makes exactly one acquisition, whatever comes of it. All that it does afterwards, up to
closing the connection, leaves the course of the execution alone: the rules, the longest wait, and
what the peer keeps. A response has the head of the exchange that the acquisition took.
-/

namespace Courier

/-- Asking for an identity leaves the answers of a correlator as they are. -/
theorem Correlator.answers_identify (κ : Correlator) (request : Descriptor) :
    (κ.identify request).2.idFor = κ.idFor ∧ (κ.identify request).2.contextFor = κ.contextFor := by
  unfold identify nextId
  cases κ.idFor (κ.asked + 1) request with
  | error f => exact ⟨rfl, rfl⟩
  | ok id =>
    simp only [nextContext]
    cases κ.contextFor (κ.consulted + 1) id with
    | error f => exact ⟨rfl, rfl⟩
    | ok container => exact ⟨rfl, rfl⟩

namespace Executor

/-- The answers of a correlator, whatever it was asked before. -/
def answers (e : Executor) :
    Option ((Nat → Descriptor → Except Failure String) ×
      (Nat → String → Except Failure Container)) :=
  e.correlator.map fun c => (c.idFor, c.contextFor)

/-- Two executors between which the course of an execution did not change. -/
structure SameCourse (e e' : Executor) : Prop where
  rules : e'.rules = e.rules
  readTimeout : e'.readTimeout = e.readTimeout
  answers : e'.answers = e.answers
  peer : e.peer.SameAcquisitions e'.peer

namespace SameCourse

theorem refl (e : Executor) : SameCourse e e := ⟨rfl, rfl, rfl, .refl _⟩

theorem trans {e₁ e₂ e₃ : Executor} (h₁ : SameCourse e₁ e₂) (h₂ : SameCourse e₂ e₃) :
    SameCourse e₁ e₃ :=
  ⟨h₂.rules.trans h₁.rules, h₂.readTimeout.trans h₁.readTimeout, h₂.answers.trans h₁.answers,
    h₁.peer.trans h₂.peer⟩

end SameCourse

variable {e : Executor} {c : Connection} {request : Descriptor} {content : Content}
  {patience : Duration}

/-! ## Stages -/

theorem sameCourse_close : SameCourse e (e.close c) :=
  ⟨rfl, rfl, rfl, Peer.sameAcquisitions_close⟩

theorem sameCourse_attach (e : Executor) : SameCourse e (e.attach c request).2 := by
  unfold attach
  split
  · exact .refl e
  · next correlator hcorrelator =>
    have hanswers : some ((correlator.identify request).2.idFor,
        (correlator.identify request).2.contextFor) = e.answers := by
      obtain ⟨hid, hcontext⟩ := correlator.answers_identify request
      rw [answers, hcorrelator, hid, hcontext]
      rfl
    dsimp only
    split
    · exact ⟨rfl, rfl, hanswers, .refl _⟩
    · exact ⟨rfl, rfl, hanswers, Peer.sameAcquisitions_attach⟩

theorem sameCourse_report {change : Metrics → Metrics} : SameCourse e (e.report change) := by
  unfold report
  split
  · exact ⟨rfl, rfl, rfl, .refl _⟩
  · exact ⟨rfl, rfl, rfl, rfl, rfl, rfl⟩

theorem sameCourse_beginWrite : SameCourse e e.beginWrite.2 := by
  unfold beginWrite
  split
  · exact sameCourse_report
  · exact .refl e

theorem sameCourse_endWrite {reported succeeded : Bool} {elapsed : Duration} :
    SameCourse e (e.endWrite reported succeeded elapsed) := by
  unfold endWrite
  split
  · exact .refl e
  · split <;> exact sameCourse_report

theorem sameCourse_write (e : Executor) : SameCourse e (e.write c request content).2 := by
  have hbegin := sameCourse_beginWrite (e := e)
  unfold write
  generalize e.beginWrite = begun at hbegin ⊢
  obtain ⟨reported, e₁⟩ := begun
  have hpeer : SameCourse e₁ { e₁ with
      peer := (e₁.peer.write c (FrameSequence.start request content).settled).2 } :=
    ⟨rfl, rfl, rfl, Peer.sameAcquisitions_write⟩
  have hwritten := hbegin.trans hpeer
  dsimp only
  split <;> exact hwritten.trans sameCourse_endWrite

theorem sameCourse_converse (e : Executor) :
    SameCourse e (e.converse patience c request content).2 := by
  unfold converse
  have hattach : SameCourse e (e.attach c request).2 := sameCourse_attach e
  split
  · next h => simpa [h] using hattach
  · next c₁ e₁ h =>
    rw [h] at hattach
    have hwrite : SameCourse e₁ (e₁.write c₁ request content).2 := sameCourse_write e₁
    split <;> next h => simpa [h] using hattach.trans hwrite

/-! ## Attempts -/

/-- An attempt is an acquisition, followed by what leaves the course of the execution alone. -/
theorem sameCourse_attempt :
    SameCourse (e.acquire request).2 (e.attempt patience request content).2 := by
  unfold attempt
  split
  · next h => simpa [h] using SameCourse.refl _
  · next c₁ e₁ h =>
    have hconverse : SameCourse e₁ (e₁.converse patience c₁ request content).2 :=
      sameCourse_converse e₁
    rw [h]
    split
    · next h => simpa [h] using hconverse
    · next h =>
      rw [h] at hconverse
      exact hconverse.trans sameCourse_close

theorem rules_of_attempt {ending : Ending Response} {e' : Executor}
    (h : e.attempt patience request content = (ending, e')) : e'.rules = e.rules := by
  have hcourse : SameCourse (e.acquire request).2 (e.attempt patience request content).2 :=
    sameCourse_attempt
  rw [h] at hcourse
  exact hcourse.rules

theorem script_of_attempt {ending : Ending Response} {e' : Executor}
    (h : e.attempt patience request content = (ending, e')) :
    e'.peer.script = e.peer.script.next.2 := by
  have hcourse : SameCourse (e.acquire request).2 (e.attempt patience request content).2 :=
    sameCourse_attempt
  rw [h] at hcourse
  exact hcourse.peer.script.trans (Peer.script_acquire e.peer request)

/-- An attempt adds one record, which begins with its request. -/
theorem headings_of_attempt {ending : Ending Response} {e' : Executor}
    (h : e.attempt patience request content = (ending, e')) :
    ∃ connection, e'.peer.headings = e.peer.headings ++ [⟨request, connection⟩] := by
  have hcourse : SameCourse (e.acquire request).2 (e.attempt patience request content).2 :=
    sameCourse_attempt
  rw [h] at hcourse
  obtain ⟨connection, hadded⟩ := Peer.headings_acquire e.peer request
  exact ⟨connection, hcourse.peer.headings.trans hadded⟩

/-! ## Responses -/

theorem messages_of_attach {c' : Connection} {e' : Executor}
    (h : e.attach c request = (.ok c', e')) : c'.messages = c.messages := by
  unfold attach at h
  split at h
  · cases h
    rfl
  · dsimp only at h
    split at h
    · cases h
    · obtain ⟨hc, -⟩ := Prod.mk.inj h
      rw [Peer.eq_of_attach hc]

theorem messages_of_readHead {response : Response} (h : e.readHead patience c = .done response) :
    c.messages = .ok (.head response.head) :: response.connection.messages := by
  unfold readHead at h
  split at h
  · next hread =>
    cases h
    exact Connection.messages_of_read hread
  · cases h
  · cases h
  · cases h
  · split at h
    · split at h <;> cases h
    · cases h

theorem messages_of_converse {response : Response} {e' : Executor}
    (h : e.converse patience c request content = (.done response, e')) :
    c.messages = .ok (.head response.head) :: response.connection.messages := by
  unfold converse at h
  split at h
  · cases h
  · next c₁ e₁ hattach =>
    split at h
    · cases h
    · next e₂ hwrite =>
      obtain ⟨hread, -⟩ := Prod.mk.inj h
      rw [← messages_of_attach hattach]
      exact messages_of_readHead hread

/-- A response has the head with which the exchange of its acquisition begins. -/
theorem head?_of_attempt {response : Response} {e' : Executor}
    (h : e.attempt patience request content = (.done response, e')) :
    e.peer.script.next.1.bind Exchange.head? = some response.head := by
  unfold attempt at h
  split at h
  · cases h
  · next c e₁ hacquire =>
    split at h
    · next r e₂ hconverse =>
      cases h
      have hgiven : (e.peer.acquire request).1 = .ok c := by
        simp only [acquire, Prod.mk.injEq] at hacquire
        obtain ⟨hacquire, -⟩ := hacquire
        cases hp : (e.peer.acquire request).1 with
        | error f =>
          rw [hp] at hacquire
          cases hacquire
        | ok c₁ =>
          rw [hp] at hacquire
          exact hacquire
      obtain ⟨x, hx, rfl⟩ := Peer.eq_connectionFor_of_acquire hgiven
      have hmessages : x.conduct.messages = .ok (.head response.head) :: _ :=
        messages_of_converse hconverse
      simp [hx, Exchange.head?, hmessages]
    · next hnot hconverse =>
      obtain ⟨rfl, -⟩ := Prod.mk.inj h
      exact absurd rfl (hnot response)

end Executor

end Courier
