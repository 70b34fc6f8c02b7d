import Courier.Proofs.Executor.Success
import Mathlib.Data.List.TakeWhile

/-!
# How many acquisitions an execution makes

An execution in which no attempt fails makes one acquisition, and one more for each redirect that
it follows. It follows redirects as long as the responses lead on and the limit is not reached,
and it delivers the head of the last exchange as it came.
-/

namespace Courier

open Redirect

/-- A response head, and the request that it answers. -/
structure Received where
  request : Descriptor
  head : ResponseHead

/-- Whether a response asks for a redirect to which the resolver gives a target. -/
def Redirect.Rules.leadsOn (r : Rules) (x : Received) : Bool :=
  [301, 302, 303, 307, 308].contains x.head.status.code && (r.resolver x.request x.head).isSome

/-- How many responses lead on before the first one that does not. -/
def Redirect.Rules.leadingCount (r : Rules) (received : List Received) : Nat :=
  (received.takeWhile r.leadsOn).length

namespace Executor

/-- What was received between two moments of an execution: the records that were added are those
of the requests, and the heads are those of the exchanges, in the order of the script. -/
structure Accounts (e e' : Executor) (received : List Received) : Prop where
  requests : e'.peer.attempts.map (·.target) =
    e.peer.attempts.map (·.target) ++ received.map (·.request)
  heads : ∀ (k : Nat) (x : Received), received[k]? = some x →
    (e.peer.script.exchange? k).bind Exchange.head? = some x.head

theorem targets_eq_of_headings_eq {p q : Peer} (h : q.headings = p.headings) :
    q.attempts.map (·.target) = p.attempts.map (·.target) := by
  have hmap := congrArg (List.map Heading.target) h
  simpa [Peer.headings, Attempt.heading, Function.comp_def] using hmap

theorem accounts_attempt {e e' : Executor} {patience : Duration} {request : Descriptor}
    {content : Content} {response : Response}
    (h : e.attempt patience request content = (.done response, e')) :
    Accounts e e' [⟨request, response.head⟩] := by
  constructor
  · obtain ⟨connection, hadded⟩ := headings_of_attempt h
    have hmap := congrArg (List.map Heading.target) hadded
    simpa [Peer.headings, Attempt.heading, Function.comp_def] using hmap
  · intro k x hk
    obtain ⟨rfl, rfl⟩ : k = 0 ∧ x = ⟨request, response.head⟩ := by
      simpa [List.getElem?_singleton, eq_comm] using hk
    rw [Script.exchange?_zero]
    exact head?_of_attempt h

theorem Accounts.cons {e e₁ e₂ : Executor} {x : Received} {rest : List Received}
    (hscript : e₁.peer.script = e.peer.script.next.2) (hfirst : Accounts e e₁ [x])
    (hrest : Accounts e₁ e₂ rest) : Accounts e e₂ (x :: rest) := by
  constructor
  · rw [hrest.requests, hfirst.requests]
    simp
  · intro k y hk
    cases k with
    | zero =>
      cases hk
      exact hfirst.heads 0 x rfl
    | succ k =>
      rw [Script.exchange?_succ, ← hscript]
      exact hrest.heads k y hk

namespace Leg

variable {patience : Duration} {l l' : Leg}

/-- A leg that is followed accounts for one response, which leads on. -/
theorem accounts_of_next? (h : l.next? patience = some l') :
    ∃ head, Accounts l.executor l'.executor [⟨l.request, head⟩] ∧
      l.executor.rules.leadsOn ⟨l.request, head⟩ = true ∧
      l'.executor.rules = l.executor.rules ∧
      l'.executor.peer.script = l.executor.peer.script.next.2 ∧
      l.budget.hops = l'.budget.hops + 1 := by
  obtain ⟨response, e, target, hattempt, hs, hb, hr, rfl⟩ := next?_eq_some_iff.1 h
  have hrules : e.rules = l.executor.rules := rules_of_attempt hattempt
  have hclose : SameCourse e (e.close response.connection) := sameCourse_close
  have hfirst := accounts_attempt hattempt
  refine ⟨response.head, ⟨?_, hfirst.heads⟩, ?_, hrules, ?_, Budget.hops_eq_of_canFollow hb⟩
  · rw [← hfirst.requests]
    exact targets_eq_of_headings_eq hclose.peer.headings
  · simpa [Rules.leadsOn, hr, Status.isRedirect] using hs
  · exact hclose.peer.script.trans (script_of_attempt hattempt)

/-- A leg with a response that is not followed has no hops left, or its response leads nowhere. -/
theorem not_leadsOn_of_next? {response : Response} {e : Executor}
    (hattempt : l.attempt patience = (.done response, e)) (h : l.next? patience = none)
    (hleads : l.executor.rules.leadsOn ⟨l.request, response.head⟩ = true) : l.budget.hops = 0 := by
  apply Nat.eq_zero_of_not_pos
  intro hhops
  simp only [Rules.leadsOn, Bool.and_eq_true, Option.isSome_iff_exists] at hleads
  obtain ⟨hs, target, hr⟩ := hleads
  have hb : l.budget.canFollow = true := Budget.canFollow_iff.2 hhops
  have hnext := next?_eq_some_iff.2 ⟨response, e, target, hattempt, hs, hb, hr, rfl⟩
  cases h.symm.trans hnext

/-- **Acquisitions of a run of legs.** If each attempt of the legs brings a response, then the
execution delivers the last one, and the number of responses is one more than the number of
redirects that the budget and the responses allow. -/
theorem execute_of_forall_done
    (hdone : ∀ m ∈ l.legs patience, ∃ response e, m.attempt patience = (.done response, e)) :
    ∃ response e received, l.execute patience = (.done response, e) ∧
      Accounts l.executor e received ∧
      received.getLast?.map (·.head) = some response.head ∧
      received.length = 1 + min l.budget.hops (l.executor.rules.leadingCount received) := by
  fun_induction legs patience l with
  | case1 l l' hnext ih =>
    obtain ⟨head, haccounts, hleads, hrules, hscript, hhops⟩ := accounts_of_next? hnext
    obtain ⟨response, e, received, hexecute, hrest, hlast, hlength⟩ :=
      ih fun m hm => hdone m (List.mem_cons_of_mem l hm)
    refine ⟨response, e, ⟨l.request, head⟩ :: received, ?_, haccounts.cons hscript hrest, ?_, ?_⟩
    · rw [execute_of_next?_eq_some hnext, hexecute]
    · cases received with
      | nil => cases hlast
      | cons x rest => simpa using hlast
    · have hcount : l.executor.rules.leadingCount (⟨l.request, head⟩ :: received) =
          l'.executor.rules.leadingCount received + 1 := by
        simp [Rules.leadingCount, hleads, hrules]
      rw [List.length_cons, hlength, hcount, hhops]
      omega
  | case2 l hnext =>
    obtain ⟨response, e, hattempt⟩ := hdone l (by simp)
    refine ⟨response, e, [⟨l.request, response.head⟩], ?_, accounts_attempt hattempt, rfl, ?_⟩
    · rw [execute_of_next?_eq_none hnext, hattempt]
    · have hzero : min l.budget.hops
          (l.executor.rules.leadingCount [⟨l.request, response.head⟩]) = 0 := by
        cases hleads : l.executor.rules.leadsOn ⟨l.request, response.head⟩ with
        | true => rw [not_leadsOn_of_next? hattempt hnext hleads, Nat.zero_min]
        | false => simp [Rules.leadingCount, hleads]
      rw [hzero]
      rfl

end Leg

/-- **Acquisitions of an execution.** If no attempt of an execution fails, the execution delivers
the head that was received last, unchanged. It makes one acquisition if redirects are disabled. With
a limit of `n` it makes one more than the lesser of `n` and the number of responses that lead on
before the first one that does not. An attempt that is given up at a silent peer has failed. -/
theorem acquisitions_of_execute {e : Executor} {patience : Duration} {request : Descriptor}
    {content : Content} {limit : Limit}
    (hdone : ∀ l ∈ (Leg.mk e request content limit.budget).legs patience,
      ∃ response e', l.attempt patience = (.done response, e')) :
    ∃ response e' received,
      e.execute patience request content limit.budget = (.done response, e') ∧
      e'.peer.attempts.map (·.target) =
        e.peer.attempts.map (·.target) ++ received.map (·.request) ∧
      (∀ (k : Nat) (x : Received), received[k]? = some x →
        (e.peer.script.exchange? k).bind Exchange.head? = some x.head) ∧
      received.getLast?.map (·.head) = some response.head ∧
      (limit = .disabled → received.length = 1) ∧
      ∀ n, limit = .max n → received.length = 1 + min n (e.rules.leadingCount received) := by
  obtain ⟨response, e', received, hexecute, haccounts, hlast, hlength⟩ :=
    Leg.execute_of_forall_done hdone
  refine ⟨response, e', received, hexecute, haccounts.requests, haccounts.heads, hlast, ?_, ?_⟩
  · rintro rfl
    simpa [Limit.budget, Budget.hops] using hlength
  · rintro n rfl
    exact hlength

/-- An executor whose peer redirects every request, to where a target is always found. -/
def endlessly : Executor :=
  { peer := { script := .always (.ofStatus ⟨302⟩) }
    rules := { resolver := fun _ _ => some .root } }

theorem acquisitions_of_execute_endlessly :
    ∃ response e', endlessly.execute .zero {} {} (Limit.max 2).budget = (.done response, e') ∧
      e'.peer.attempts.length = 3 ∧ response.head = { status := ⟨302⟩ } := by
  have hsound : (Leg.mk endlessly {} {} (Limit.max 2).budget).Sound := by
    refine ⟨fun k _ => ⟨.ofStatus ⟨302⟩, rfl, rfl, rfl, rfl, _, _, rfl⟩, ?_, rfl⟩
    intro idFor contextFor hnone
    cases hnone
  obtain ⟨response, e', received, hexecute, hrequests, hheads, hlast, -, hlength⟩ :=
    acquisitions_of_execute (hsound.forall_done .zero)
  have hhead : ∀ x ∈ received, x.head = { status := ⟨302⟩ } := by
    intro x hx
    obtain ⟨k, hk⟩ := List.mem_iff_getElem?.1 hx
    exact (Option.some.inj (hheads k x hk)).symm
  have hall : endlessly.rules.leadingCount received = received.length := by
    have htake : received.takeWhile endlessly.rules.leadsOn = received := by
      rw [List.takeWhile_eq_self_iff]
      intro x hx
      simp [Rules.leadsOn, hhead x hx, endlessly]
    rw [Rules.leadingCount, htake]
  refine ⟨response, e', hexecute, ?_, ?_⟩
  · have hcount := congrArg List.length hrequests
    have hthree := hlength 2 rfl
    rw [hall] at hthree
    simp only [List.length_append, List.length_map] at hcount
    rw [hcount]
    change 0 + received.length = 3
    omega
  · cases hx : received.getLast? with
    | none => simp [hx] at hlast
    | some x =>
      rw [hx] at hlast
      rw [← hhead x (List.mem_of_getLast? hx)]
      exact (Option.some.inj hlast).symm

end Executor

end Courier
