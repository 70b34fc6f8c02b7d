import Courier.Inspect

/-!
# Redirect limits and budgets

A limit is what a request asks for: no redirects, or at most so many hops. A budget is what is left
of it in the course of a chain of hops. Following a hop takes one from the budget, and a budget
from which nothing can be taken ends the chain.
-/

namespace Courier.Redirect

/-! ## Limits -/

/-- How many redirects a request may follow (`RedirectLimit`). -/
inductive Limit
  | disabled
  | max (hops : Nat)
deriving DecidableEq, Repr

namespace Limit

/-- The hops that are followed where a request asks for redirects without a number. -/
def usual : Nat := 5

/-- The limit that a yes or no stands for. -/
def ofBool (follow : Bool) : Limit :=
  if follow then max usual else disabled

/-- The limit that a signed number stands for; a negative one means none. -/
def ofInt : Int → Limit
  | .ofNat n => max n
  | .negSucc _ => disabled

instance : Inspect Limit where
  inspect
    | disabled => "Disabled"
    | max n => Inspect.tuple "Max" [inspect n]

end Limit

/-! ## Budgets -/

/-- The position in a chain of hops (`RedirectState`). -/
inductive Budget
  | disabled
  | active (hops : Nat)
  | exhausted
deriving DecidableEq, Repr

/-- The budget at the start of a chain (`initial_state`). -/
def Limit.budget : Limit → Budget
  | .disabled => .disabled
  | .max n => .active n

namespace Budget

/-- The hops that are left; minus one where redirects are disabled (`hops_remaining`). -/
def remaining : Budget → Int
  | disabled => -1
  | active n => n
  | exhausted => 0

/-- Whether one more hop may be followed (`can_follow`). -/
def canFollow : Budget → Bool
  | active n => 0 < n
  | _ => false

/-- The budget after one hop (`after_hop`). -/
def afterHop : Budget → Budget
  | disabled => disabled
  | active n => if 1 < n then active (n - 1) else exhausted
  | exhausted => exhausted

/-- The number of hops that may still be followed. -/
def hops : Budget → Nat
  | active n => n
  | _ => 0

theorem hops_afterHop_lt {b : Budget} (h : b.canFollow = true) : b.afterHop.hops < b.hops := by
  cases b with
  | active n =>
    have : 0 < n := by simpa [canFollow] using h
    by_cases hn : 1 < n <;> simp [afterHop, hops, hn] <;> omega
  | _ => cases h

end Budget

end Courier.Redirect
