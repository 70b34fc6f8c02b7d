import Courier.Proofs.Executor.Legs
import Courier.Proofs.Executor.Stages
import Courier.Proofs.Frame

/-!
# When no attempt fails

An attempt succeeds where its exchange answers with a head and none of the collaborators reports a
failure. If that is so for as many exchanges as the budget may need, then every attempt of an
execution succeeds.
-/

namespace Courier

open Redirect

/-- An exchange that answers with a head and fails nowhere. -/
structure Exchange.Answers (x : Exchange) : Prop where
  acquire : x.acquireFailure = none
  control : x.controlFailure = none
  write : x.writeFailure = none
  respond : ∃ head rest, x.conduct = .respond (.ok (.head head) :: rest)

/-- An executor without a correlator, or with one that always gives an identity. -/
def Executor.Identifies (e : Executor) : Prop :=
  ∀ idFor contextFor, e.answers = some (idFor, contextFor) → ∀ n m request,
    ∃ id container, idFor n request = .ok id ∧ contextFor m id = .ok container

/-- Content without a fault. -/
def Content.Readable (c : Content) : Prop :=
  ContentItem.firstFault? c.items = none

theorem Content.readable_empty : Content.empty.Readable := rfl

/-! ## Writing -/

theorem Peer.writeFrames_of_frames {p : Peer} {c : Connection} {polls : List FramePoll}
    (hpolls : ∀ poll ∈ polls, ∃ f, poll = .frame f) (hc : c.exchange.Answers) :
    (p.writeFrames c polls).1 = .done := by
  obtain ⟨head, messages, hconduct⟩ := hc.respond
  induction polls generalizing p with
  | nil => rfl
  | cons poll rest ih =>
    obtain ⟨f, rfl⟩ := hpolls poll (by simp)
    simp only [writeFrames, hconduct]
    split
    · rfl
    · exact ih fun q hq => hpolls q (List.mem_cons_of_mem _ hq)

theorem FrameSequence.forall_frame_of_readable {request : Descriptor} {content : Content}
    (h : content.Readable) : ∀ poll ∈ (start request content).settled, ∃ f, poll = .frame f := by
  intro poll hpoll
  rw [settled_start, h] at hpoll
  simp only [List.cons_append, List.mem_cons, List.mem_append, List.mem_map,
    List.not_mem_nil, or_false] at hpoll
  rcases hpoll with rfl | ⟨u, -, rfl⟩ | rfl
  · exact ⟨_, rfl⟩
  · exact ⟨_, rfl⟩
  · exact ⟨_, rfl⟩

namespace Executor

variable {e e' : Executor} {c : Connection} {request : Descriptor} {content : Content}
  {patience : Duration} {x : Exchange}

/-! ## Stages -/

theorem acquire_of_answers (request : Descriptor) (hnext : e.peer.script.next.1 = some x)
    (hx : x.Answers) :
    (e.acquire request).1 = .ok (e.peer.connectionFor x) := by
  obtain ⟨head, messages, hconduct⟩ := hx.respond
  rcases Peer.acquire_cases e.peer request with
    ⟨hrefused, -⟩ | ⟨y, hy, -, ⟨f, hf, -⟩ | ⟨-, h⟩⟩
  · cases hconduct.symm.trans (hrefused x hnext)
  · cases hnext.symm.trans hy
    cases hx.acquire.symm.trans hf
  · cases hnext.symm.trans hy
    rw [acquire, h]
    rfl

theorem attach_of_answers (request : Descriptor) (hc : c.exchange.Answers) (he : e.Identifies) :
    ∃ context, (e.attach c request).1 = .ok { c with correlation := context } := by
  obtain ⟨head, messages, hconduct⟩ := hc.respond
  unfold attach
  split
  · exact ⟨c.correlation, rfl⟩
  · next correlator hcorrelator =>
    obtain ⟨id, container, hid, hcontainer⟩ :=
      he correlator.idFor correlator.contextFor (by simp [answers, hcorrelator])
        (correlator.asked + 1) (correlator.consulted + 1) request
    have hgiven : correlator.identity request = .ok ⟨id, container⟩ :=
      Correlator.identity_eq_ok_iff.2 ⟨hid, hcontainer⟩
    have hidentity : (correlator.identify request).1 = .ok ⟨id, container⟩ := by
      rw [Correlator.identify_eq, hgiven]
      rfl
    refine ⟨some ⟨id, container⟩, ?_⟩
    simp [hidentity, Peer.attach, Peer.fire, hc.control, hconduct]

theorem write_of_answers (hc : c.exchange.Answers) (hcontent : content.Readable) :
    (e.write c request content).1 = .ok () := by
  have hwritten : ∀ p : Peer,
      (p.write c (FrameSequence.start request content).settled).1 = .done := by
    intro p
    simp only [Peer.write, hc.write]
    exact Peer.writeFrames_of_frames (FrameSequence.forall_frame_of_readable hcontent) hc
  unfold write
  simp only [hwritten]

theorem readHead_of_answers (hc : c.exchange.Answers)
    (hmessages : c.messages = c.exchange.conduct.messages) (hopen : c.closed = false) :
    ∃ response, e.readHead patience c = .done response := by
  obtain ⟨head, messages, hconduct⟩ := hc.respond
  have hread : c.read = (.message (.head head), { c with messages }) := by
    simp [Connection.read, hopen, hmessages, hconduct, Conduct.messages]
  exact ⟨{ head, connection := { c with messages } }, by simp only [readHead, hread]⟩

/-! ## Attempts -/

theorem converse_of_answers (hc : c.exchange.Answers)
    (hmessages : c.messages = c.exchange.conduct.messages) (hopen : c.closed = false)
    (he : e.Identifies) (hcontent : content.Readable) :
    ∃ response e', e.converse patience c request content = (.done response, e') := by
  obtain ⟨context, hattach⟩ := attach_of_answers request hc he
  cases h₁ : e.attach c request with
  | mk attached e₁ =>
    rw [h₁] at hattach
    cases hattach
    have hwrite : (e₁.write { c with correlation := context } request content).1 = .ok () :=
      write_of_answers hc hcontent
    cases h₂ : e₁.write { c with correlation := context } request content with
    | mk written e₂ =>
      rw [h₂] at hwrite
      cases hwrite
      obtain ⟨response, hread⟩ : ∃ response,
          e₂.readHead patience { c with correlation := context } = .done response :=
        readHead_of_answers hc hmessages hopen
      exact ⟨response, e₂, by simp only [converse, h₁, h₂, hread]⟩

theorem identifies_of_sameCourse (h : SameCourse e e') (he : e.Identifies) : e'.Identifies := by
  intro idFor contextFor hanswers
  exact he idFor contextFor (h.answers ▸ hanswers)

/-- An attempt succeeds where the exchange answers and no collaborator fails. -/
theorem attempt_of_answers (hnext : e.peer.script.next.1 = some x) (hx : x.Answers)
    (he : e.Identifies) (hcontent : content.Readable) :
    ∃ response e', e.attempt patience request content = (.done response, e') := by
  have hacquire := acquire_of_answers request hnext hx
  cases h₁ : e.acquire request with
  | mk acquired e₁ =>
    rw [h₁] at hacquire
    cases hacquire
    have he₁ : e₁.Identifies := by
      obtain rfl : (e.acquire request).2 = e₁ := by rw [h₁]
      exact he
    obtain ⟨response, e₂, hconverse⟩ : ∃ response e',
        e₁.converse patience (e.peer.connectionFor x) request content = (.done response, e') :=
      converse_of_answers hx rfl rfl he₁ hcontent
    exact ⟨response, e₂, by simp only [attempt, h₁, hconverse]⟩

namespace Leg

/-- A leg from which no attempt can fail: the exchanges that its budget allows for all answer, and
no collaborator fails. -/
structure Sound (l : Leg) : Prop where
  script : ∀ k ≤ l.budget.hops,
    ∃ x, l.executor.peer.script.exchange? k = some x ∧ x.Answers
  identifies : l.executor.Identifies
  readable : l.content.Readable

variable {l l' : Leg}

theorem Sound.attempt (h : l.Sound) :
    ∃ response e, l.attempt patience = (.done response, e) := by
  obtain ⟨x, hx, hanswers⟩ := h.script 0 (Nat.zero_le _)
  rw [Script.exchange?_zero] at hx
  exact attempt_of_answers hx hanswers h.identifies h.readable

theorem Sound.next? (h : l.Sound) (hnext : l.next? patience = some l') : l'.Sound := by
  obtain ⟨response, e, target, hattempt, -, hb, -, rfl⟩ := next?_eq_some_iff.1 hnext
  refine ⟨?_, ?_, ?_⟩
  · intro k hk
    have hscript : e.peer.script = l.executor.peer.script.next.2 := script_of_attempt hattempt
    obtain ⟨x, hx, hanswers⟩ :=
      h.script (k + 1) (by rw [Budget.hops_eq_of_canFollow hb]; exact Nat.succ_le_succ hk)
    exact ⟨x, by rw [← hx, Script.exchange?_succ, ← hscript]; rfl, hanswers⟩
  · have hcourse : SameCourse (l.executor.acquire l.request).2 (l.attempt patience).2 :=
      sameCourse_attempt
    rw [hattempt] at hcourse
    exact identifies_of_sameCourse (hcourse.trans sameCourse_close) h.identifies
  · simp only [hop]
    split
    · exact h.readable
    · exact Content.readable_empty

/-- No attempt of an execution that begins with a sound leg fails. -/
theorem Sound.forall_done (h : l.Sound) (patience : Duration) :
    ∀ m ∈ l.legs patience, ∃ response e, m.attempt patience = (.done response, e) := by
  fun_induction legs patience l with
  | case1 l l' hnext ih =>
    intro m hm
    rcases List.mem_cons.1 hm with rfl | hm
    · exact h.attempt
    · exact ih (h.next? hnext) m hm
  | case2 l hnext =>
    intro m hm
    rw [List.mem_singleton.1 hm]
    exact h.attempt

end Leg

end Executor

end Courier
