import Courier.Proofs.Executor.Legs

/-!
# From legs to executions

The legs of an execution follow one another, and the execution ends as its last leg does. What
each leg hands to the next one holds of all of them.
-/

namespace Courier.Executor.Leg

variable {patience : Duration} {l l' m : Leg} {k : Nat}

theorem legs_of_next?_eq_some (h : l.next? patience = some l') :
    l.legs patience = l :: l'.legs patience := by
  rw [legs]
  split
  · next hnext =>
    cases h.symm.trans hnext
    rfl
  · next hnext => cases h.symm.trans hnext

theorem getElem?_legs_zero : (l.legs patience)[0]? = some l := by
  rw [legs]
  split <;> rfl

/-- A redirect whose target is found is followed while the budget lasts. -/
theorem exists_second_leg {r : Response} {e : Executor} {head : ResponseHead} {target : Uri}
    (hattempt : l.attempt patience = (.done r, e))
    (hhead : l.executor.peer.script.next.1.bind Exchange.head? = some head)
    (hstatus : head.status.isRedirect = true) (hbudget : l.budget.canFollow = true)
    (htarget : l.executor.rules.resolver l.request head = some target) :
    ∃ l', l.next? patience = some l' ∧ (l.legs patience)[1]? = some l' := by
  obtain rfl : r.head = head := Option.some.inj ((head?_of_attempt hattempt).symm.trans hhead)
  have hnext := next?_eq_some_iff.2 ⟨r, e, target, hattempt, hstatus, hbudget, htarget, rfl⟩
  refine ⟨_, hnext, ?_⟩
  rw [legs_of_next?_eq_some hnext, List.getElem?_cons_succ, getElem?_legs_zero]

/-- A leg whose attempt brings no response is the last one. -/
theorem next?_eq_none_of_attempt {ending : Ending Response} {e : Executor}
    (h : l.attempt patience = (ending, e)) (hending : ∀ r, ending ≠ .done r) :
    l.next? patience = none := by
  unfold next?
  rw [h]
  split
  · next hdone =>
    cases hdone
    exact absurd rfl (hending _)
  · rfl

/-- What holds of the first leg and is carried from leg to leg holds of every leg. -/
theorem forall_legs {P : Nat → Leg → Prop} (start : P 0 l)
    (step : ∀ k m m', P k m → m.next? patience = some m' → P (k + 1) m') :
    ∀ k m, (l.legs patience)[k]? = some m → P k m := by
  fun_induction legs patience l generalizing P with
  | case1 l l' hnext =>
    rename_i ih
    intro k m hk
    cases k with
    | zero =>
      cases hk
      exact start
    | succ k => exact ih (step 0 l l' start hnext) (fun k => step (k + 1)) k m hk
  | case2 l hnext =>
    intro k m hk
    obtain ⟨rfl, rfl⟩ : k = 0 ∧ l = m := by simpa [List.getElem?_singleton] using hk
    exact start

/-- The execution ends as the attempt of the leg ends that leads to no other one. -/
theorem execute_of_last (hk : (l.legs patience)[k]? = some m) (hlast : m.next? patience = none) :
    (l.legs patience).length = k + 1 ∧ l.execute patience = m.attempt patience := by
  fun_induction legs patience l generalizing k with
  | case1 l l' hnext =>
    rename_i ih
    cases k with
    | zero =>
      cases hk
      cases hnext.symm.trans hlast
    | succ k =>
      obtain ⟨hlength, hexecute⟩ := ih hk
      exact ⟨by rw [List.length_cons, hlength], by rw [execute_of_next?_eq_some hnext, hexecute]⟩
  | case2 l hnext =>
    obtain ⟨rfl, rfl⟩ : k = 0 ∧ l = m := by simpa [List.getElem?_singleton] using hk
    exact ⟨rfl, execute_of_next?_eq_none hnext⟩

theorem exists_last (patience : Duration) (l : Leg) :
    ∃ (k : Nat) (m : Leg), (l.legs patience)[k]? = some m ∧ m.next? patience = none := by
  fun_induction legs patience l with
  | case1 l l' hnext ih =>
    obtain ⟨k, m, hk, hlast⟩ := ih
    exact ⟨k + 1, m, hk, hlast⟩
  | case2 l hnext => exact ⟨0, l, rfl, hnext⟩

end Courier.Executor.Leg
