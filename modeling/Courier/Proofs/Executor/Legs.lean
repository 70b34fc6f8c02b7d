import Courier.Proofs.Executor.Attempt

/-!
# The legs of an execution

An execution is a loop, and a leg is where the loop stands before an attempt. A leg whose response
is followed leads to the next one, and the budget bounds how many there are. The execution ends as
the attempt of its last leg ends, so that what a leg keeps can be carried to the end by induction
over the legs.
-/

namespace Courier

open Redirect

/-! ## Decisions -/

theorem Redirect.Rules.decide_eq_follow_iff {r : Rules} {b next : Budget} {d : Descriptor}
    {head : ResponseHead} {target : Uri} :
    r.decide b d head = .follow target next ↔
      head.status.isRedirect = true ∧ b.canFollow = true ∧ r.resolver d head = some target ∧
        next = b.afterHop := by
  constructor
  · intro h
    obtain ⟨hb, hnext⟩ := canFollow_of_decide_eq_follow h
    have hne : b ≠ .disabled := by
      rintro rfl
      cases hb
    cases hs : head.status.isRedirect with
    | false => simp [decide, hne, hs] at h
    | true =>
      cases hr : r.resolver d head with
      | none => simp [decide, hne, hs, hb, hr] at h
      | some t =>
        simp only [decide, hne, hs, hb, hr, if_false, Bool.not_true, Bool.false_eq_true,
          Decision.follow.injEq] at h
        exact ⟨rfl, hb, by rw [h.1], hnext⟩
  · rintro ⟨hs, hb, hr, rfl⟩
    have hne : b ≠ .disabled := by
      rintro rfl
      cases hb
    simp [decide, hne, hs, hb, hr]

namespace Redirect.Budget

theorem canFollow_iff {b : Budget} : b.canFollow = true ↔ 0 < b.hops := by
  cases b <;> simp [canFollow, hops]

theorem hops_eq_of_canFollow {b : Budget} (h : b.canFollow = true) :
    b.hops = b.afterHop.hops + 1 := by
  cases b with
  | active n =>
    have hn : 0 < n := canFollow_iff.1 h
    by_cases hmore : 1 < n
    · simp only [afterHop, hops, hmore, if_true]
      omega
    · simp only [afterHop, hops, hmore, if_false]
      omega
  | disabled | exhausted => cases h

end Redirect.Budget

namespace Executor

/-- Where an execution stands before an attempt. -/
structure Leg where
  executor : Executor
  request : Descriptor
  content : Content
  budget : Budget

namespace Leg

variable {patience : Duration} {l l' : Leg}

/-- The attempt of a leg. -/
def attempt (patience : Duration) (l : Leg) : Ending Response × Executor :=
  l.executor.attempt patience l.request l.content

/-- The leg after a response that leads to a target. -/
def hop (l : Leg) (e : Executor) (response : Response) (target : Uri) (next : Budget) : Leg :=
  let hop := e.rules.hop l.request response.head.status target
  { executor := e.close response.connection
    request := hop.request
    content := if hop.keepsContent then l.content else .empty
    budget := next }

/-- The leg after this one, if the response of this one is followed. -/
def next? (patience : Duration) (l : Leg) : Option Leg :=
  match l.attempt patience with
  | (.done response, e) =>
    match e.rules.decide l.budget l.request response.head with
    | .deliver _ => none
    | .follow target next => some (l.hop e response target next)
  | _ => none

/-- What is known where a leg leads to another one. -/
theorem next?_eq_some_iff : l.next? patience = some l' ↔
    ∃ response e target, l.attempt patience = (.done response, e) ∧
      response.head.status.isRedirect = true ∧ l.budget.canFollow = true ∧
      l.executor.rules.resolver l.request response.head = some target ∧
      l' = l.hop e response target l.budget.afterHop := by
  constructor
  · intro h
    unfold next? at h
    split at h
    · next response e hattempt =>
      have hrules : e.rules = l.executor.rules := rules_of_attempt hattempt
      split at h
      · cases h
      · next target next hdecide =>
        obtain ⟨hs, hb, hr, rfl⟩ := Rules.decide_eq_follow_iff.1 hdecide
        exact ⟨response, e, target, hattempt, hs, hb, hrules ▸ hr, (Option.some.inj h).symm⟩
    · cases h
  · rintro ⟨response, e, target, hattempt, hs, hb, hr, rfl⟩
    have hrules : e.rules = l.executor.rules := rules_of_attempt hattempt
    have hdecide := Rules.decide_eq_follow_iff.2 ⟨hs, hb, hrules ▸ hr, rfl⟩
    simp only [next?, hattempt, hdecide]

theorem hops_lt_of_next? (h : l.next? patience = some l') : l'.budget.hops < l.budget.hops := by
  obtain ⟨response, e, target, -, -, hb, -, rfl⟩ := next?_eq_some_iff.1 h
  exact Budget.hops_afterHop_lt hb

/-- The execution from a leg on. -/
def execute (patience : Duration) (l : Leg) : Ending Response × Executor :=
  l.executor.execute patience l.request l.content l.budget

theorem execute_of_next?_eq_some (h : l.next? patience = some l') :
    l.execute patience = l'.execute patience := by
  unfold next? at h
  split at h
  · next response e hattempt =>
    split at h
    · cases h
    · next target next hdecide =>
      cases h
      rw [execute, Executor.execute, ← attempt, hattempt]
      dsimp only
      split
      · next hd => cases hd.symm.trans hdecide
      · next hd =>
        cases hd.symm.trans hdecide
        rfl
  · cases h

theorem execute_of_next?_eq_none (h : l.next? patience = none) :
    l.execute patience = l.attempt patience := by
  unfold next? at h
  rw [execute, Executor.execute, ← attempt]
  split
  · next response e hattempt =>
    rw [hattempt]
    split
    · rfl
    · next hd => simp [hattempt, hd] at h
  · next hattempt => exact hattempt.symm

/-- The legs of the execution that begins with a leg. -/
def legs (patience : Duration) (l : Leg) : List Leg :=
  match _h : l.next? patience with
  | some l' => l :: l'.legs patience
  | none => [l]
termination_by l.budget.hops
decreasing_by exact hops_lt_of_next? _h

end Leg

end Executor

end Courier
