import Courier.Redirect.Decision

/-!
# Chains of hops

A chain is what a request becomes when it is redirected again and again. Each turn of it is the
status that was answered and the target that was found, by whatever resolver. A fact that one hop
keeps holds along the whole chain, from the place on where it first holds.
-/

namespace Courier.Redirect

/-- One redirect: the status that was answered, and the target that it leads to. -/
structure Turn where
  status : Status
  target : Uri
deriving DecidableEq

namespace Rules

/-- The requests of a chain of hops, from the first request on. -/
def chain (r : Rules) (request : Descriptor) : List Turn → List Descriptor
  | [] => [request]
  | turn :: rest => request :: r.chain (r.hop request turn.status turn.target).request rest

variable {r : Rules} {request d : Descriptor} {turns : List Turn} {P : Descriptor → Prop}

/-- What a hop keeps holds of all requests of a chain if it holds of the first one. -/
theorem forall_mem_chain
    (keeps : ∀ d status target, P d → P (r.hop d status target).request) (start : P request) :
    ∀ d ∈ r.chain request turns, P d := by
  induction turns generalizing request with
  | nil =>
    intro d hd
    rw [List.mem_singleton.1 hd]
    exact start
  | cons turn rest ih =>
    intro d hd
    rcases List.mem_cons.1 hd with rfl | hd
    · exact start
    · exact ih (keeps _ _ _ start) d hd

/-- A chain from one of its requests on is the chain of that request. -/
theorem drop_chain {k : Nat} (hk : (r.chain request turns)[k]? = some d) :
    (r.chain request turns).drop k = r.chain d (turns.drop k) := by
  induction turns generalizing request k with
  | nil =>
    obtain ⟨rfl, rfl⟩ : k = 0 ∧ request = d := by simpa [chain, List.getElem?_singleton] using hk
    rfl
  | cons turn rest ih =>
    cases k with
    | zero =>
      obtain rfl : request = d := by simpa [chain] using hk
      rfl
    | succ k => exact ih hk

/-- What a hop keeps holds from one request of a chain on. -/
theorem holds_later_of_holds
    (keeps : ∀ d status target, P d → P (r.hop d status target).request) {j k : Nat}
    {later : Descriptor} (hj : (r.chain request turns)[j]? = some d) (start : P d) (hjk : j ≤ k)
    (hk : (r.chain request turns)[k]? = some later) : P later := by
  have hrest : ((r.chain request turns).drop j)[k - j]? = some later := by
    rw [List.getElem?_drop, Nat.add_sub_cancel' hjk, hk]
  rw [drop_chain hj] at hrest
  exact forall_mem_chain keeps start later (List.mem_of_getElem? hrest)

theorem getElem?_chain_zero : (r.chain request turns)[0]? = some request := by
  cases turns <;> rfl

/-- Every later request of a chain is that of a hop from the request before it. -/
theorem exists_turn_of_succ {k : Nat} {next : Descriptor}
    (hn : (r.chain request turns)[k + 1]? = some next) :
    ∃ d turn, (r.chain request turns)[k]? = some d ∧ turns[k]? = some turn ∧
      next = (r.hop d turn.status turn.target).request := by
  induction turns generalizing request k with
  | nil => simp [chain] at hn
  | cons turn rest ih =>
    rw [chain, List.getElem?_cons_succ] at hn
    cases k with
    | zero =>
      rw [getElem?_chain_zero] at hn
      cases hn
      exact ⟨request, turn, getElem?_chain_zero, rfl, rfl⟩
    | succ k => exact ih hn

/-- Two neighbours in a chain are a request and the request of its hop. -/
theorem exists_hop_of_neighbours {j : Nat} {next : Descriptor}
    (hj : (r.chain request turns)[j]? = some d) (hn : (r.chain request turns)[j + 1]? = some next) :
    ∃ turn ∈ turns, next = (r.hop d turn.status turn.target).request := by
  obtain ⟨d', turn, hd, hturn, rfl⟩ := exists_turn_of_succ hn
  cases hj.symm.trans hd
  exact ⟨turn, List.mem_of_getElem? hturn, rfl⟩

/-- A chain in which each turn leads where the rules find a target in a response. -/
def Resolves (r : Rules) (request : Descriptor) (turns : List Turn) : Prop :=
  ∀ (k : Nat) (d : Descriptor) (turn : Turn), (r.chain request turns)[k]? = some d →
    turns[k]? = some turn → ∃ head, head.status = turn.status ∧ r.resolver d head = some turn.target

theorem resolves_nil : r.Resolves request [] := by
  intro k d turn _ hturn
  simp at hturn

theorem resolves_cons {turn : Turn} {head : ResponseHead} (hstatus : head.status = turn.status)
    (hfound : r.resolver request head = some turn.target)
    (hrest : r.Resolves (r.hop request turn.status turn.target).request turns) :
    r.Resolves request (turn :: turns) := by
  intro k d later hd hlater
  cases k with
  | zero =>
    cases getElem?_chain_zero.symm.trans hd
    cases hlater
    exact ⟨head, hstatus, hfound⟩
  | succ k => exact hrest k d later hd hlater

end Rules

end Courier.Redirect
