import Courier.Proofs.Frame

/-!
# Chains of sources

Behind a failure there is a chain of sources: the layers below the outermost one, each with all that
lies below it, and at last the cause. Whether there is a certain cause is read off that chain.
Giving a failure another stage puts the failure in front of its own chain, so that nothing in the
chain is lost; only what the outermost layer alone says is not said any more.
-/

namespace Courier

namespace Failure

/-- The sources of a failure with these layers below the outermost one. -/
def chainBelow : List Layer → Option Cause → List Fault
  | next :: rest, cause => .failure { outer := next, inner := rest, cause } :: chainBelow rest cause
  | [], cause => cause.toList.map .cause

/-- The sources of a failure, the nearest first. -/
def chain (f : Failure) : List Fault :=
  chainBelow f.inner f.cause

end Failure

/-- The sources of a fault: a cause has none. -/
def Fault.chain : Fault → List Fault
  | .cause _ => []
  | .failure f => f.chain

namespace Failure

variable {f g : Failure} {s : Stage}

theorem cause_mem_chainBelow_iff {layers : List Layer} {cause : Option Cause} {c : Cause} :
    .cause c ∈ chainBelow layers cause ↔ cause = some c := by
  induction layers with
  | nil => cases cause <;> simp [chainBelow, eq_comm]
  | cons next rest ih => simp [chainBelow, ih]

theorem cause_mem_chain_iff {c : Cause} : .cause c ∈ f.chain ↔ f.cause = some c :=
  cause_mem_chainBelow_iff

/-! ## What is looked for -/

/-- A failure with an elapsed wait among its sources. -/
def Elapsed (f : Failure) : Prop :=
  ∃ limit, .cause (.timedOut limit) ∈ f.chain

theorem elapsed_iff : f.Elapsed ↔ ∃ limit, f.cause = some (.timedOut limit) := by
  simp only [Elapsed, cause_mem_chain_iff]

/-- A timeout is a failure of the stage that waits, or has an elapsed wait among its sources. -/
theorem isTimeout_iff : f.isTimeout = true ↔ f.stage = .timeout ∨ f.Elapsed := by
  rw [isTimeout, Bool.or_eq_true, beq_iff_eq, elapsed_iff]
  refine or_congr_right ?_
  split
  · next limit hcause => simp [hcause]
  · next hcause => simpa using hcause

/-! ## Other stages -/

theorem stage_reclassify (f : Failure) (s : Stage) : (f.reclassify s).stage = s := by
  unfold reclassify
  split
  · assumption
  · rfl

theorem stage_withUri (f : Failure) (u : Uri) : (f.withUri u).stage = f.stage := rfl

/-- What `g` keeps of a failure `f` that it restates at a stage: the chain of sources is the end of
its own chain, with the same elapsed waits and closed connections in it. -/
structure Restates (g : Failure) (s : Stage) (f : Failure) : Prop where
  stage : g.stage = s
  chain : f.chain <:+ g.chain
  elapsed : g.Elapsed ↔ f.Elapsed
  isConnectionClosed : g.isConnectionClosed = f.isConnectionClosed

namespace Restates

/-- A failure is called a timeout at another stage as it was before just if a wait elapsed, or if
either both stages are that of timeouts or none is. -/
theorem isTimeout_eq_iff (h : g.Restates s f) :
    g.isTimeout = f.isTimeout ↔ f.Elapsed ∨ (f.stage = .timeout ↔ s = .timeout) := by
  rw [Bool.eq_iff_iff, isTimeout_iff, isTimeout_iff, h.stage, h.elapsed]
  by_cases helapsed : f.Elapsed
  · simp [helapsed]
  · simp [helapsed, iff_comm]

/-- At a stage other than that of timeouts, a failure stays a timeout unless its stage alone made
it one. -/
theorem isTimeout_eq_iff_of_ne (h : g.Restates s f)
    (hs : s ≠ .timeout) : g.isTimeout = f.isTimeout ↔ (f.stage = .timeout → f.Elapsed) := by
  rw [h.isTimeout_eq_iff]
  by_cases hstage : f.stage = .timeout
  · simp [hstage, hs]
  · simp [hstage, hs]

theorem withUri (h : g.Restates s f) (u : Uri) : (g.withUri u).Restates s f :=
  ⟨h.stage, h.chain, h.elapsed, h.isConnectionClosed⟩

end Restates

theorem elapsed_wrap : (f.wrap s).Elapsed ↔ f.Elapsed := by
  rw [elapsed_iff, elapsed_iff]
  rfl

theorem restates_reclassify (f : Failure) (s : Stage) : (f.reclassify s).Restates s f := by
  by_cases hs : f.stage = s
  · have hsame : f.reclassify s = f := if_pos hs
    rw [hsame]
    exact ⟨hs, List.suffix_rfl, Iff.rfl, rfl⟩
  · have hwrap : f.reclassify s = f.wrap s := if_neg hs
    rw [hwrap]
    exact ⟨rfl, List.suffix_cons _ _, elapsed_wrap, rfl⟩

end Failure

end Courier
