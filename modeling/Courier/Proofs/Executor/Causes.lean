import Courier.Proofs.Executor.Run
import Courier.Proofs.Executor.Stages
import Courier.Proofs.Response

/-!
# What the caller learns of a cause

A collaborator may report a failure when a connection is acquired, when an identity is made or sent,
when the frames are written, when the head is read and when the body is read. The failure that
reaches the caller restates it: it has the stage in which it was reported, and the whole failure
among its sources. The one thing that can be lost is that a failure was called a timeout: where no
elapsed wait is among its sources, the stage alone said so.
-/

namespace Courier

namespace Executor

variable {e : Executor} {patience : Duration} {request : Descriptor} {content : Content}
  {s : Stage} {f : Failure}

/-- What a collaborator reports in an attempt, and the stage at which it does. -/
inductive Reports (e : Executor) (request : Descriptor) (content : Content) :
    Stage → Failure → Prop
  | acquiring {f : Failure} (acquire : (e.peer.acquire request).1 = .error f) :
    Reports e request content .connect f
  | identifying {c : Connection} {e₁ : Executor} {κ : Correlator} {f : Failure}
    (acquire : e.acquire request = (.ok c, e₁)) (correlator : e₁.correlator = some κ)
    (identity : κ.identity request = .error f) :
    Reports e request content .write f
  | controlling {c : Connection} {e₁ : Executor} {κ : Correlator} {context : Context}
    {f : Failure} (acquire : e.acquire request = (.ok c, e₁)) (correlator : e₁.correlator = some κ)
    (identity : κ.identity request = .ok context)
    (fire : (e₁.peer.fire c context).1 = .error f) :
    Reports e request content .write f
  | writing {c c₂ : Connection} {e₁ e₂ : Executor} {f : Failure}
    (acquire : e.acquire request = (.ok c, e₁)) (attach : e₁.attach c request = (.ok c₂, e₂))
    (write : (e₂.beginWrite.2.peer.write c₂ (FrameSequence.start request content).settled).1 =
      .failed f) :
    Reports e request content .write f
  | reading {c c₂ : Connection} {e₁ e₂ e₃ : Executor} {f : Failure}
    (acquire : e.acquire request = (.ok c, e₁)) (attach : e₁.attach c request = (.ok c₂, e₂))
    (write : e₂.write c₂ request content = (.ok (), e₃)) (read : c₂.read.1 = .failed f) :
    Reports e request content .read f

/-! ## Stages -/

theorem acquire_of_error (h : (e.peer.acquire request).1 = .error f) :
    (e.acquire request).1 = .error ((f.reclassify .connect).withUri request.uri) := by
  unfold acquire
  generalize e.peer.acquire request = acquired at h
  obtain ⟨c, peer⟩ := acquired
  dsimp only at h ⊢
  rw [h]
  rfl

theorem attach_of_identity_error {c : Connection} {κ : Correlator} (hκ : e.correlator = some κ)
    (h : κ.identity request = .error f) :
    (e.attach c request).1 = .error (f.reclassify .write) := by
  unfold attach
  simp only [hκ, Correlator.identify_eq, h]
  rfl

theorem attach_of_fire_error {c : Connection} {κ : Correlator} {context : Context}
    (hκ : e.correlator = some κ) (hidentity : κ.identity request = .ok context)
    (h : (e.peer.fire c context).1 = .error f) :
    (e.attach c request).1 = .error (f.reclassify .write) := by
  unfold attach
  simp only [hκ, Correlator.identify_eq, hidentity, mapError_ok, Peer.attach]
  generalize e.peer.fire c context = fired at h
  obtain ⟨answer, peer⟩ := fired
  dsimp only at h
  rw [h]

theorem write_of_failed {c : Connection}
    (h : (e.beginWrite.2.peer.write c (FrameSequence.start request content).settled).1 =
      .failed f) :
    (e.write c request content).1 = .error (f.reclassify .write) := by
  unfold write
  generalize e.beginWrite = begun at h
  obtain ⟨reported, e₁⟩ := begun
  dsimp only at h ⊢
  generalize e₁.peer.write c (FrameSequence.start request content).settled = wrote at h
  obtain ⟨written, peer⟩ := wrote
  dsimp only at h ⊢
  rw [h]

theorem readHead_of_failed {c : Connection} (h : c.read.1 = .failed f) :
    e.readHead patience c = .failed (f.reclassify .read) := by
  unfold readHead
  generalize c.read = reading at h
  obtain ⟨answer, d⟩ := reading
  dsimp only at h
  rw [h]

/-! ## Attempts -/

theorem converse_of_attach_error {c : Connection} (h : (e.attach c request).1 = .error f) :
    (e.converse patience c request content).1 = .failed f := by
  unfold converse
  rcases hattach : e.attach c request with ⟨answer, e₁⟩
  rw [hattach] at h
  dsimp only at h
  rw [h]

theorem converse_of_write_error {c c₂ : Connection} {e₂ : Executor}
    (hattach : e.attach c request = (.ok c₂, e₂))
    (h : (e₂.write c₂ request content).1 = .error f) :
    (e.converse patience c request content).1 = .failed f := by
  unfold converse
  rcases hwrite : e₂.write c₂ request content with ⟨answer, e₃⟩
  rw [hwrite] at h
  dsimp only at h
  simp only [hattach, hwrite, h]

theorem attempt_of_converse_failed {c : Connection} {e₁ : Executor}
    (hacquire : e.acquire request = (.ok c, e₁))
    (h : (e₁.converse patience c request content).1 = .failed f) :
    (e.attempt patience request content).1 = .failed f := by
  unfold attempt
  rcases hconverse : e₁.converse patience c request content with ⟨ending, e₂⟩
  rw [hconverse] at h
  dsimp only at h
  simp only [hacquire, hconverse, h]

/-- A failure that is reported in an attempt ends it with a failure that restates it. -/
theorem attempt_of_reports (patience : Duration) (h : e.Reports request content s f) :
    ∃ g, (e.attempt patience request content).1 = .failed g ∧ g.Restates s f := by
  have hrestates := f.restates_reclassify s
  cases h with
  | acquiring hreport =>
    refine ⟨_, ?_, hrestates.withUri request.uri⟩
    have hfailed := acquire_of_error hreport
    unfold attempt
    rcases hacquire : e.acquire request with ⟨answer, e₁⟩
    rw [hacquire] at hfailed
    dsimp only at hfailed
    rw [hfailed]
  | identifying hacquire hκ hreport =>
    refine ⟨_, attempt_of_converse_failed hacquire ?_, hrestates⟩
    exact converse_of_attach_error (attach_of_identity_error hκ hreport)
  | controlling hacquire hκ hidentity hreport =>
    refine ⟨_, attempt_of_converse_failed hacquire ?_, hrestates⟩
    exact converse_of_attach_error (attach_of_fire_error hκ hidentity hreport)
  | writing hacquire hattach hreport =>
    refine ⟨_, attempt_of_converse_failed hacquire ?_, hrestates⟩
    exact converse_of_write_error hattach (write_of_failed hreport)
  | reading hacquire hattach hwrite hreport =>
    refine ⟨_, attempt_of_converse_failed hacquire ?_, hrestates⟩
    simp only [converse, hattach, hwrite]
    exact readHead_of_failed hreport

theorem ne_timeout_of_reports (h : e.Reports request content s f) : s ≠ .timeout := by
  cases h <;> decide

/-! ## Executions -/

/-- A failure that is reported in any leg of an execution ends the execution. -/
theorem execute_of_reports {l m : Leg} {k : Nat} (hk : (l.legs patience)[k]? = some m)
    (h : m.executor.Reports m.request m.content s f) :
    ∃ g, (l.execute patience).1 = .failed g ∧ g.Restates s f := by
  obtain ⟨g, hattempt, hrestates⟩ := attempt_of_reports patience h
  have hnot : ∀ r : Response, Ending.failed g ≠ .done r := by simp
  have hlast : m.next? patience = none :=
    Leg.next?_eq_none_of_attempt (Prod.ext hattempt rfl) hnot
  rw [(Leg.execute_of_last hk hlast).2]
  exact ⟨g, hattempt, hrestates⟩

end Executor

/-! ## Bodies -/

/-- A failure that is reported when the body is read ends the body. -/
theorem Response.nextChunk_of_stop {r : Response} {f : Failure} (hspeaks : r.Speaks)
    (h : Body.stop? r.unread = some (.error f)) :
    ∃ g, (r.afterCalls (Body.chunks r.unread).length).nextChunk.1 = .failed g ∧
      g.Restates .body f := by
  refine ⟨_, ?_, f.restates_reclassify .body⟩
  have hleaves := leaves_afterCalls hspeaks (Nat.le_refl _)
  rw [List.drop_length] at hleaves
  have hfailure : Body.failure? r.unread = some (f.reclassify .body) := by
    rw [Body.failure?, h]
    rfl
  rw [hleaves.nextChunk_of_nil, hfailure]

namespace Executor

/-- **What the caller learns of a cause.** Giving a failure another stage loses nothing of its
sources and of whether the connection was closed, and it stays a timeout, or stays none, just if a
wait elapsed or the stages agree on that. So it is for every failure that is reported in a leg of an
execution, which ends with a failure of the stage of the report, and for one that is reported when
the body is read. -/
theorem causes_reach_caller (f : Failure) (s : Stage) :
    ((f.reclassify s).Restates s f ∧
      ((f.reclassify s).isTimeout = f.isTimeout ↔
        f.Elapsed ∨ (f.stage = .timeout ↔ s = .timeout))) ∧
    (∀ (e : Executor) patience request content budget (k : Nat) (l : Leg),
      ((Leg.mk e request content budget).legs patience)[k]? = some l →
      l.executor.Reports l.request l.content s f →
      ∃ g, (e.execute patience request content budget).1 = .failed g ∧ g.Restates s f ∧
        (g.isTimeout = f.isTimeout ↔ (f.stage = .timeout → f.Elapsed))) ∧
    ∀ (r : Response), r.Speaks → Body.stop? r.unread = some (.error f) →
      ∃ g, (r.afterCalls (Body.chunks r.unread).length).nextChunk.1 = .failed g ∧
        g.Restates .body f ∧ (g.isTimeout = f.isTimeout ↔ (f.stage = .timeout → f.Elapsed)) := by
  refine ⟨?_, ?_, ?_⟩
  · exact ⟨f.restates_reclassify s, (f.restates_reclassify s).isTimeout_eq_iff⟩
  · intro e patience request content budget k l hk hreports
    obtain ⟨g, hexecute, hrestates⟩ := execute_of_reports hk hreports
    exact ⟨g, hexecute, hrestates,
      hrestates.isTimeout_eq_iff_of_ne (ne_timeout_of_reports hreports)⟩
  · intro r hspeaks hstop
    obtain ⟨g, hanswer, hrestates⟩ := Response.nextChunk_of_stop hspeaks hstop
    exact ⟨g, hanswer, hrestates, hrestates.isTimeout_eq_iff_of_ne (by decide)⟩

/-- An executor whose peer fails to give a connection. -/
def unconnected (f : Failure) : Executor :=
  { peer := { script := .always { conduct := .respond [], acquireFailure := some f } } }

theorem reports_unconnected (f : Failure) :
    (unconnected f).Reports {} {} .connect f :=
  .acquiring rfl

theorem causes_reach_caller_elapsed :
    ∃ g, ((unconnected (.ofCause .read (.timedOut .zero))).execute .zero {} {}
        (Redirect.Limit.max 2).budget).1 = .failed g ∧
      g.stage = .connect ∧ g.isTimeout = true := by
  obtain ⟨-, hexecutions, -⟩ := causes_reach_caller (.ofCause .read (.timedOut .zero)) .connect
  obtain ⟨g, hexecute, hrestates, htimeout⟩ := hexecutions _ .zero {} {}
    (Redirect.Limit.max 2).budget 0 _ Leg.getElem?_legs_zero
    (reports_unconnected (.ofCause .read (.timedOut .zero)))
  exact ⟨g, hexecute, hrestates.stage, htimeout.2 nofun⟩

/-- A timeout that names no elapsed wait is none any more once it has another stage. -/
theorem not_isTimeout_unconnected :
    (Failure.ofStage .timeout).isTimeout = true ∧
    ((Failure.ofStage .timeout).reclassify .connect).isTimeout = false ∧
    ∃ g, ((unconnected (.ofStage .timeout)).execute .zero {} {}
        (Redirect.Limit.max 2).budget).1 = .failed g ∧ g.isTimeout = false := by
  refine ⟨rfl, rfl, ?_⟩
  have hfirst : ((Leg.mk (unconnected (.ofStage .timeout)) {} {}
      (Redirect.Limit.max 2).budget).legs .zero)[0]? = some _ := Leg.getElem?_legs_zero
  obtain ⟨g, hexecute, hrestates⟩ :=
    execute_of_reports hfirst (reports_unconnected (.ofStage .timeout))
  refine ⟨g, hexecute, ?_⟩
  rw [Bool.eq_false_iff, ne_eq, Failure.isTimeout_iff, hrestates.stage, hrestates.elapsed,
    Failure.elapsed_iff]
  rintro (hstage | ⟨limit, hcause⟩)
  · cases hstage
  · cases hcause

end Executor

end Courier
