import Courier.Proofs.Executor.Dependence
import Courier.Proofs.Executor.Success

/-!
# The records of an execution

Each leg of an execution adds one record, and what the leg leaves of it stays. So the record of the
leg after `k` others is the one after the `k` that those have added, and the correlator that the
leg asks is the one that was asked `k` times for an id and `k` times for a container.
-/

namespace Courier.Executor

variable {e e' : Executor} {patience : Duration} {request : Descriptor} {content : Content}

theorem acquire_of_attempt {r : Response}
    (h : e.attempt patience request content = (.done r, e')) :
    ∃ c e₁, e.acquire request = (.ok c, e₁) := by
  rcases hacquire : e.acquire request with ⟨f | c, e₁⟩
  · simp only [attempt, hacquire] at h
    cases h
  · exact ⟨c, e₁, rfl⟩

/-- Every attempt adds one record. -/
theorem attempts_of_attempt (e : Executor) (patience : Duration) (request : Descriptor)
    (content : Content) :
    ∃ a, (e.attempt patience request content).2.peer.attempts = e.peer.attempts ++ [a] := by
  rcases hacquire : e.acquire request with ⟨f | c, e₁⟩
  · obtain ⟨-, -, -, connected, a, -, rfl⟩ := acquire_eq_error hacquire
    simp only [attempt, hacquire]
    exact ⟨a, rfl⟩
  · obtain ⟨control, frames, error, htranscript⟩ := transcript hacquire patience content
    exact ⟨_, htranscript.attempts⟩

namespace Leg

variable {l l' m : Leg} {k : Nat} {a : Attempt} {c : Connection} {e₁ : Executor}

/-! ## The end of a leg -/

/-- The executor when a leg is over. A connection whose response is followed has been closed. -/
def after (patience : Duration) (l : Leg) : Executor :=
  match l.next? patience with
  | some l' => l'.executor
  | none => (l.attempt patience).2

theorem after_of_next?_eq_some (h : l.next? patience = some l') :
    l.after patience = l'.executor := by
  rw [after, h]

theorem after_of_next?_eq_none (h : l.next? patience = none) :
    l.after patience = (l.attempt patience).2 := by
  rw [after, h]

/-- What the legs of an execution have in common with its attempts: closing the connection of a
response that is followed changes the record of the leg. -/
theorem after_cases (patience : Duration) (l : Leg) :
    (l.next? patience = none ∧ l.after patience = (l.attempt patience).2) ∨
    ∃ r e l', l.next? patience = some l' ∧ l.attempt patience = (.done r, e) ∧
      l.after patience = e.close r.connection := by
  cases hnext : l.next? patience with
  | none => exact .inl ⟨rfl, after_of_next?_eq_none hnext⟩
  | some l' =>
    obtain ⟨r, e, target, hattempt, -, -, -, rfl⟩ := next?_eq_some_iff.1 hnext
    exact .inr ⟨r, e, _, rfl, hattempt, after_of_next?_eq_some hnext⟩

/-- What a leg leaves of the connection that it acquired. -/
theorem transcript_after (hacquire : l.executor.acquire l.request = (.ok c, e₁))
    (patience : Duration) :
    ∃ control frames error, Transcript l.executor e₁ c l.request l.content
        (l.attempt patience).1 (l.attempt patience).2 control frames error ∧
      ((l.next? patience).isSome = true →
        (l.after patience).correlator = l.executor.correlator.map (·.after 1)) ∧
      (l.after patience).peer.attempts = l.executor.peer.attempts ++
        [.told l.request c.id control frames error
          ((l.next? patience).isSome || !(l.attempt patience).1.isDone)] := by
  obtain ⟨control, frames, error, h⟩ := transcript hacquire patience l.content
  change Transcript l.executor e₁ c l.request l.content (l.attempt patience).1
    (l.attempt patience).2 control frames error at h
  refine ⟨control, frames, error, h, ?_⟩
  rcases after_cases patience l with ⟨hnext, hafter⟩ | ⟨r, e, l', hnext, hattempt, hafter⟩
  · rw [hafter, hnext]
    exact ⟨nofun, h.attempts⟩
  · rw [hattempt] at h ⊢
    obtain ⟨-, hplace, -⟩ := h.response r rfl
    rw [hafter, hnext]
    exact ⟨fun _ => h.answered rfl, attempts_close ⟨h.attempts, hplace⟩⟩

/-! ## Records -/

theorem attempts_after (patience : Duration) (l : Leg) :
    ∃ a, (l.after patience).peer.attempts = l.executor.peer.attempts ++ [a] := by
  rcases hacquire : l.executor.acquire l.request with ⟨f | c, e₁⟩
  · have hattempt : l.attempt patience = (.failed f, e₁) := by
      simp only [attempt, Executor.attempt, hacquire]
    rw [after_of_next?_eq_none (next?_eq_none_of_attempt hattempt (by simp))]
    exact attempts_of_attempt _ _ _ _
  · obtain ⟨_, _, _, -, -, hattempts⟩ := transcript_after hacquire patience
    exact ⟨_, hattempts⟩

theorem length_attempts (hk : (l.legs patience)[k]? = some m) :
    m.executor.peer.attempts.length = l.executor.peer.attempts.length + k := by
  refine forall_legs (P := fun k m =>
    m.executor.peer.attempts.length = l.executor.peer.attempts.length + k) rfl ?_ k m hk
  intro k m m' hm hnext
  obtain ⟨a, ha⟩ := attempts_after patience m
  rw [after_of_next?_eq_some hnext] at ha
  rw [ha, List.length_append, hm]
  rfl

theorem attempts_prefix_execute (patience : Duration) (l : Leg) :
    (l.after patience).peer.attempts <+: (l.execute patience).2.peer.attempts := by
  fun_induction legs patience l with
  | case1 l l' hnext ih =>
    obtain ⟨a, ha⟩ := attempts_after patience l'
    rw [after_of_next?_eq_some hnext, execute_of_next?_eq_some hnext]
    exact (ha ▸ List.prefix_append _ _).trans ih
  | case2 l hnext =>
    have hsame : l.after patience = (l.execute patience).2 := by
      rw [after_of_next?_eq_none hnext, execute_of_next?_eq_none hnext]
    exact hsame ▸ List.prefix_rfl

/-- The records that were there before an execution stay as they are. -/
theorem prefix_execute (patience : Duration) (l : Leg) :
    l.executor.peer.attempts <+: (l.execute patience).2.peer.attempts := by
  obtain ⟨a, ha⟩ := attempts_after patience l
  exact (ha ▸ List.prefix_append _ _).trans (attempts_prefix_execute patience l)

theorem execute_of_mem (hk : (l.legs patience)[k]? = some m) :
    l.execute patience = m.execute patience :=
  forall_legs (P := fun _ m => l.execute patience = m.execute patience) rfl
    (fun _ _ _ hm hnext => hm.trans (execute_of_next?_eq_some hnext)) k m hk

/-- The record that a leg leaves is the one of the execution at the place of the leg. -/
theorem record_of_after (hk : (l.legs patience)[k]? = some m)
    (h : (m.after patience).peer.attempts = m.executor.peer.attempts ++ [a]) :
    (l.execute patience).2.peer.attempts[l.executor.peer.attempts.length + k]? = some a := by
  obtain ⟨rest, hrest⟩ := attempts_prefix_execute patience m
  rw [execute_of_mem hk, ← hrest, h, ← length_attempts hk]
  simp

theorem length_execute (patience : Duration) (l : Leg) :
    (l.execute patience).2.peer.attempts.length =
      l.executor.peer.attempts.length + (l.legs patience).length := by
  obtain ⟨k, m, hk, hlast⟩ := exists_last patience l
  obtain ⟨hlength, hexecute⟩ := execute_of_last hk hlast
  obtain ⟨a, ha⟩ := attempts_of_attempt m.executor patience m.request m.content
  rw [hexecute, attempt, ha, List.length_append, length_attempts hk, hlength]
  rfl

/-! ## Identities -/

/-- A correlator is asked for one id and for one container by every leg that leads to another
one. -/
theorem correlator_of_leg (hk : (l.legs patience)[k]? = some m) :
    m.executor.correlator = l.executor.correlator.map (·.after k) := by
  refine forall_legs (P := fun k m =>
    m.executor.correlator = l.executor.correlator.map (·.after k)) ?_ ?_ k m hk
  · cases l.executor.correlator <;> rfl
  · intro k m m' hm hnext
    obtain ⟨r, e, target, hattempt, -⟩ := next?_eq_some_iff.1 hnext
    obtain ⟨c, e₁, hacquire⟩ := acquire_of_attempt hattempt
    obtain ⟨-, -, -, -, hgiven, -⟩ := transcript_after hacquire patience
    have hcorrelator := hgiven (by rw [hnext]; rfl)
    rw [after_of_next?_eq_some hnext, hm, Option.map_map] at hcorrelator
    exact hcorrelator

end Leg

/-! ## What every attempt tells -/

/-- What an attempt asks of a correlator: one id, and if it is given one, one container. The
correlator goes on to answer as it does. -/
structure AsksOnce (κ κ' : Correlator) (request : Descriptor) : Prop where
  asked : κ'.asked = κ.asked + 1
  given : ∀ id, κ.idFor (κ.asked + 1) request = .ok id → κ'.consulted = κ.consulted + 1
  refused : ∀ f, κ.idFor (κ.asked + 1) request = .error f → κ'.consulted = κ.consulted
  atMostOnce : κ.consulted ≤ κ'.consulted ∧ κ'.consulted ≤ κ.consulted + 1
  answers : κ'.idFor = κ.idFor ∧ κ'.contextFor = κ.contextFor

theorem asksOnce_afterIdentify (κ : Correlator) (request : Descriptor) :
    AsksOnce κ (κ.afterIdentify request) request := by
  unfold Correlator.afterIdentify
  cases hid : κ.idFor (κ.asked + 1) request with
  | error f => exact ⟨rfl, by simp [hid], fun _ _ => rfl, ⟨Nat.le_refl _, Nat.le_succ _⟩, rfl, rfl⟩
  | ok id => exact ⟨rfl, fun _ _ => rfl, by simp [hid], ⟨Nat.le_succ _, Nat.le_refl _⟩, rfl, rfl⟩

/-- What the record of a connection tells of the attempt that acquired it, the one after `k` others
in an execution that began with this correlator: `e` is the executor with the connection. -/
structure Recounts (correlator : Option Correlator) (k : Nat) (e : Executor) (c : Connection)
    (request : Descriptor) (content : Content) (record : Attempt) : Prop where
  target : record.target = request
  connection : record.connection = some c.id
  front : record.frames.map .frame <+: (FrameSequence.start request content).settled
  all : record.frames.map .frame = (FrameSequence.start request content).settled ↔
    e.Writes c request content
  anonymous : correlator = none →
    record.control = [] ∧ record.timeline = record.frames.map fun f => .frame f.kind
  named : ∀ κ id container, correlator = some κ → κ.idFor (κ.asked + k + 1) request = .ok id →
    κ.contextFor (κ.consulted + k + 1) id = .ok container → c.exchange.TakesControl →
    record.control = [⟨id, container⟩] ∧
      record.timeline = .control :: record.frames.map (fun f => .frame f.kind) ∧
      ∃ e', e.attach c request = (.ok { c with correlation := some ⟨id, container⟩ }, e')
  unnamed : ∀ κ, correlator = some κ →
    (∀ id container, κ.idFor (κ.asked + k + 1) request = .ok id →
      κ.contextFor (κ.consulted + k + 1) id = .ok container → ¬ c.exchange.TakesControl) →
    record.control = [] ∧ record.frames = [] ∧ record.timeline = []

theorem Identified.eq {c : Connection} {x y : Option Context} (hx : Identified e c request x)
    (hy : Identified e c request y) : x = y := by
  cases hx with
  | anonymous hnone =>
    cases hy with
    | anonymous _ => rfl
    | named hsome => cases hnone.symm.trans hsome
  | named hx hcontext =>
    cases hy with
    | anonymous hnone => cases hx.symm.trans hnone
    | named hy hother =>
      cases hx.symm.trans hy
      cases hcontext.symm.trans hother
      rfl

theorem Tells.recounts {c : Connection} {control : List Context} {frames : List Frame}
    (h : Tells e c request content control frames) {correlator : Option Correlator} {k : Nat}
    (he : e.correlator = correlator.map (·.after k)) (error : Option String) (closed : Bool) :
    Recounts correlator k e c request content
      (.told request c.id control frames error closed) where
  target := rfl
  connection := rfl
  front := h.front
  all := h.all
  anonymous hnone := by
    have hcontrol : control = [] := by
      rcases h.identity with ⟨context, hidentified, rfl⟩ | ⟨-, hcontrol, -⟩
      · rw [hidentified.eq (.anonymous (by rw [he, hnone]; rfl))]
        rfl
      · exact hcontrol
    simp [Attempt.told, hcontrol]
  named κ id container hκ hid hcontainer hcontrol := by
    have hafter : e.correlator = some (κ.after k) := by rw [he, hκ]; rfl
    have hidentity : (κ.after k).identity request = .ok ⟨id, container⟩ :=
      Correlator.identity_eq_ok_iff.2 ⟨hid, hcontainer⟩
    have hone : control = [⟨id, container⟩] := by
      rcases h.identity with ⟨context, hidentified, rfl⟩ | ⟨hnot, -, -⟩
      · rw [hidentified.eq (.named hafter hidentity hcontrol)]
        rfl
      · exact absurd (.named hafter hidentity hcontrol) (hnot _)
    refine ⟨hone, by simp [Attempt.told, hone], ?_⟩
    rcases attach_cases hafter c request with ⟨context, hcontext, -, hattach⟩ | ⟨hnot, -⟩
    · cases hidentity.symm.trans hcontext
      exact ⟨_, hattach⟩
    · exact absurd hcontrol (hnot _ hidentity)
  unnamed κ hκ hnot := by
    have hafter : e.correlator = some (κ.after k) := by rw [he, hκ]; rfl
    rcases h.identity with ⟨context, hidentified, -⟩ | ⟨-, hcontrol, hframes⟩
    · cases hidentified with
      | anonymous hnone => cases hafter.symm.trans hnone
      | named hagain hidentity hcontrol =>
        cases hafter.symm.trans hagain
        obtain ⟨hid, hcontainer⟩ := Correlator.identity_eq_ok_iff.1 hidentity
        exact absurd hcontrol (hnot _ _ hid hcontainer)
    · simp [Attempt.told, hcontrol, hframes]

/-- An executor whose peer redirects every request, and whose correlator numbers the attempts. -/
def numbered : Executor :=
  { peer := { script := .always (.ofStatus ⟨302⟩) }
    correlator := some (.ofSupply fun n => if n = 1 then "first" else "later")
    rules := { resolver := fun _ _ => some .root } }

theorem sound_numbered : (Leg.mk numbered {} {} (Redirect.Limit.max 2).budget).Sound := by
  refine ⟨fun k _ => ⟨.ofStatus ⟨302⟩, rfl, rfl, rfl, rfl, _, _, rfl⟩, ?_, rfl⟩
  rintro _ _ ⟨⟩ n m request
  exact ⟨_, _, rfl, rfl⟩

end Courier.Executor
