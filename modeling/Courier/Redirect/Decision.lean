import Courier.Redirect.Hop
import Courier.Redirect.Limit
import Courier.Redirect.Location

/-!
# Redirect decisions

Each response either ends the chain of hops, for one of four reasons, or is followed to a target.
-/

namespace Courier.Redirect

/-- Why a response is delivered. -/
inductive Delivery
  | disabled
  | final
  | budgetSpent
  | noTarget
deriving DecidableEq, Repr

instance : Inspect Delivery where
  inspect
    | .disabled => "Disabled"
    | .final => "Final"
    | .budgetSpent => "BudgetSpent"
    | .noTarget => "NoTarget"

/-- What is done with a response (`RedirectDecision`). -/
inductive Decision
  | deliver (reason : Delivery)
  | follow (target : Uri) (budget : Budget)
deriving DecidableEq, Repr

/-- How redirects are followed: by which resolver, and whether credentials are kept back from other
hosts (`RedirectCoordinator`). -/
structure Rules where
  resolver : Resolver := byLocation
  stripsCredentials : Bool := true

namespace Rules

/-- Decides on the response to a request. The status is looked at before the budget, and the
budget before the target. -/
def decide (r : Rules) (budget : Budget) (request : Descriptor) (response : ResponseHead) :
    Decision :=
  if budget = .disabled then .deliver .disabled
  else if !response.status.isRedirect then .deliver .final
  else if !budget.canFollow then .deliver .budgetSpent
  else match r.resolver request response with
    | some target => .follow target budget.afterHop
    | none => .deliver .noTarget

/-- The hop to a target after a status. -/
def hop (r : Rules) (request : Descriptor) (status : Status) (target : Uri) : Hop :=
  nextHop r.stripsCredentials request status target

theorem canFollow_of_decide_eq_follow {r : Rules} {b next : Budget} {d : Descriptor}
    {response : ResponseHead} {target : Uri} (h : r.decide b d response = .follow target next) :
    b.canFollow = true ∧ next = b.afterHop := by
  unfold decide at h
  split at h
  · cases h
  · split at h
    · cases h
    · split at h
      · cases h
      · next hb =>
        split at h
        · cases h
          exact ⟨by simpa using hb, rfl⟩
        · cases h

instance : Inspect Rules where
  inspect r := Inspect.openRecord "RedirectCoordinator"
    [("strip_sensitive_headers", inspect r.stripsCredentials)]

end Rules

end Courier.Redirect
