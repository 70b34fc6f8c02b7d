import Courier.Proofs.Executor.Run
import Courier.Proofs.Executor.Stages
import Mathlib.Logic.Relation

/-!
# Executions step by step

An errand is an execution that is cut into steps, between which other executions may come in. Each
step finds the executor as the others have left it. What a step does is outlined once: where it
leads to, and what it reports. An errand to which nothing comes in between ends as the execution
does.
-/

namespace Courier

/-! ## Sinks of a peer -/

namespace Peer

variable {p : Peer} {c : Connection}

@[simp] theorem sink_record {change : Attempt → Attempt} : (p.record c change).sink = p.sink := rfl

@[simp] theorem sink_close : (p.close c).2.sink = p.sink := rfl

@[simp] theorem sink_acquire {target : Descriptor} : (p.acquire target).2.sink = p.sink := by
  rcases acquire_cases p target with ⟨-, h⟩ | ⟨x, -, -, ⟨f, -, h⟩ | ⟨-, h⟩⟩ <;>
    simp [h, afterAcquisition]

@[simp] theorem sink_fire {context : Context} : (p.fire c context).2.sink = p.sink := by
  unfold fire
  split <;> simp

@[simp] theorem sink_attach {context : Context} : (p.attach c context).2.sink = p.sink := by
  have hfire : (p.fire c context).2.sink = p.sink := sink_fire
  unfold attach
  split <;> next h => simpa [h] using hfire

@[simp] theorem sink_writeFrames {polls : List FramePoll} :
    (p.writeFrames c polls).2.sink = p.sink := by
  fun_induction writeFrames p c polls with
  | case5 p f rest hconduct q hlast ih => exact ih
  | case4 => rfl
  | _ => simp

@[simp] theorem sink_write {polls : List FramePoll} : (p.write c polls).2.sink = p.sink := by
  unfold write
  split <;> simp

end Peer

/-! ## Reports of an executor -/

namespace Executor

/-- Between these executors there was one report, which changed the collector so. A sink that the
executor has of its own takes the report, and then that of the peer is untouched. -/
structure Reporting (change : Metrics → Metrics) (e e' : Executor) : Prop where
  reports : e'.reports = e.reports.map change
  keeps : e'.sink.isSome = e.sink.isSome
  untouched : e.sink.isSome = true → e'.peer.sink = e.peer.sink

variable {e e₁ e' : Executor} {change : Metrics → Metrics} {c : Connection} {request : Descriptor}
  {content : Content} {patience elapsed : Duration}

theorem reporting_id (hown : e'.sink = e.sink) (hpeer : e'.peer.sink = e.peer.sink) :
    Reporting id e e' := by
  refine ⟨?_, by rw [hown], fun _ => hpeer⟩
  rw [reports, reports, hown, hpeer, Option.map_id]
  rfl

theorem reporting_report : Reporting change e (e.report change) := by
  cases hsink : e.sink with
  | none => constructor <;> simp [report, reports, hsink]
  | some m => constructor <;> simp [report, reports, hsink]

/-- What is done between reports may come before one. -/
theorem Reporting.after (h : Reporting change e₁ e') (h₁ : Reporting id e e₁) :
    Reporting change e e' := by
  have hreports : e₁.reports = e.reports := h₁.reports.trans (by simp)
  refine ⟨by rw [h.reports, hreports], h.keeps.trans h₁.keeps, ?_⟩
  intro hown
  rw [h.untouched (by rw [h₁.keeps, hown]), h₁.untouched hown]

theorem Reporting.before (h : Reporting change e e₁) (h₁ : Reporting id e₁ e') :
    Reporting change e e' := by
  have hreports : e'.reports = e₁.reports := h₁.reports.trans (by simp)
  refine ⟨by rw [hreports, h.reports], h₁.keeps.trans h.keeps, ?_⟩
  intro hown
  rw [h₁.untouched (by rw [h.keeps, hown]), h.untouched hown]

theorem reporting_acquire (h : e.acquire request = (x, e')) : Reporting id e e' := by
  cases h
  exact reporting_id rfl Peer.sink_acquire

theorem reporting_close : Reporting id e (e.close c) :=
  reporting_id rfl Peer.sink_close

theorem reporting_attach {x : Except Failure Connection} (h : e.attach c request = (x, e')) :
    Reporting id e e' := by
  unfold attach at h
  split at h
  · cases h
    exact reporting_id rfl rfl
  · dsimp only at h
    split at h
    · cases h
      exact reporting_id rfl rfl
    · cases h
      exact reporting_id rfl Peer.sink_attach

/-- What the end of a write changes in the collector. -/
def ending (reported succeeded : Bool) (elapsed : Duration) : Metrics → Metrics :=
  if !reported then id
  else if succeeded then (·.onComplete elapsed)
  else (·.onFailed elapsed)

theorem reporting_endWrite (reported succeeded : Bool) :
    Reporting (ending reported succeeded elapsed) e (e.endWrite reported succeeded elapsed) := by
  unfold ending endWrite
  split
  · exact reporting_id rfl rfl
  · split <;> exact reporting_report

end Executor

/-! ## Errands -/

/-- Where an errand stands. Once it has been looked up whether a write is reported, the errand
keeps to the answer. -/
inductive Stand
  | acquiring
  | attaching (c : Connection)
  | beginning (c : Connection)
  | announcing (c : Connection) (reported : Bool)
  | writing (c : Connection) (reported : Bool)
  | awaiting (c : Connection)
  | over (ending : Ending Response)

/-- What a step does. -/
inductive Act
  | acquired (ok : Bool)
  | attached (ok : Bool)
  | looked (publishing : Bool)
  | begun (reported : Bool)
  | wrote (ok : Bool)
  | read
  | cancelled
deriving DecidableEq

/-- An execution that is under way: the request of the attempt that it makes, the number of that
attempt, and where it stands. -/
structure Errand where
  request : Descriptor
  content : Content
  budget : Redirect.Budget
  attempt : Nat := 0
  stand : Stand := .acquiring

namespace Errand

open Executor (Reporting ending)

/-- The errand elsewhere in the same attempt. -/
def moveTo (t : Errand) (stand : Stand) : Errand :=
  { t with stand }

/-- The next attempt of the errand, after a redirect. -/
def again (t : Errand) (hop : Redirect.Hop) (next : Redirect.Budget) : Errand :=
  { request := hop.request
    content := if hop.keepsContent then t.content else .empty
    budget := next
    attempt := t.attempt + 1 }

/-- One step of an errand with the executor as it is found: what is done, where that leads to, and
what becomes of the executor. An errand that is over takes no step. -/
def step? (patience elapsed : Duration) (e : Executor) (t : Errand) :
    Option (Act × Errand × Executor) :=
  match t.stand with
  | .acquiring => match e.acquire t.request with
    | (.ok c, e) => some (.acquired true, t.moveTo (.attaching c), e)
    | (.error f, e) => some (.acquired false, t.moveTo (.over (.failed f)), e)
  | .attaching c => match e.attach c t.request with
    | (.ok c, e) => some (.attached true, t.moveTo (.beginning c), e)
    | (.error f, e) => some (.attached false, t.moveTo (.over (.failed f)), e.close c)
  | .beginning c =>
    some (.looked e.reports.isPublishing, t.moveTo (.announcing c e.reports.isPublishing), e)
  | .announcing c reported =>
    some (.begun reported, t.moveTo (.writing c reported),
      if reported then e.report (·.onSubmitted) else e)
  | .writing c reported =>
    let (written, peer) := e.peer.write c (FrameSequence.start t.request t.content).settled
    let e := { e with peer }
    match written with
    | .failed f =>
      some (.wrote false, t.moveTo (.over (.failed (f.reclassify .write))),
        (e.endWrite reported false elapsed).close c)
    | .done | .suspended =>
      some (.wrote true, t.moveTo (.awaiting c), e.endWrite reported true elapsed)
  | .awaiting c => match e.readHead patience c with
    | .done r => match e.rules.decide t.budget t.request r.head with
      | .deliver _ => some (.read, t.moveTo (.over (.done r)), e)
      | .follow target next =>
        some (.read, t.again (e.rules.hop t.request r.head.status target) next,
          e.close r.connection)
    | .failed f => some (.read, t.moveTo (.over (.failed f)), e.close c)
    | .abandoned => some (.read, t.moveTo (.over .abandoned), e.close c)
  | .over _ => none

/-- All that a step can do: where it starts, what it does, where it leads to, and what it changes
in the collector. -/
inductive Took (elapsed : Duration) (t : Errand) : Act → Errand → (Metrics → Metrics) → Prop
  | acquired {c : Connection} (stand : t.stand = .acquiring) :
    Took elapsed t (.acquired true) (t.moveTo (.attaching c)) id
  | unacquired {f : Failure} (stand : t.stand = .acquiring) :
    Took elapsed t (.acquired false) (t.moveTo (.over (.failed f))) id
  | attached {c c' : Connection} (stand : t.stand = .attaching c) :
    Took elapsed t (.attached true) (t.moveTo (.beginning c')) id
  | unattached {c : Connection} {f : Failure} (stand : t.stand = .attaching c) :
    Took elapsed t (.attached false) (t.moveTo (.over (.failed f))) id
  | looked {c : Connection} {reported : Bool} (stand : t.stand = .beginning c) :
    Took elapsed t (.looked reported) (t.moveTo (.announcing c reported)) id
  | begun {c : Connection} {reported : Bool} (stand : t.stand = .announcing c reported) :
    Took elapsed t (.begun reported) (t.moveTo (.writing c reported))
      (if reported then (·.onSubmitted) else id)
  | wrote {c : Connection} {reported : Bool} (stand : t.stand = .writing c reported) :
    Took elapsed t (.wrote true) (t.moveTo (.awaiting c)) (ending reported true elapsed)
  | unwritten {c : Connection} {reported : Bool} {f : Failure}
    (stand : t.stand = .writing c reported) :
    Took elapsed t (.wrote false) (t.moveTo (.over (.failed f))) (ending reported false elapsed)
  | redirected {c : Connection} {hop : Redirect.Hop} {next : Redirect.Budget}
    (stand : t.stand = .awaiting c) : Took elapsed t .read (t.again hop next) id
  | finished {c : Connection} {last : Ending Response} (stand : t.stand = .awaiting c) :
    Took elapsed t .read (t.moveTo (.over last)) id

variable {patience elapsed : Duration} {e e' : Executor} {t t' : Errand} {act : Act}

/-- What is known after a step. -/
theorem took_of_step? (h : t.step? patience elapsed e = some (act, t', e')) :
    (∃ change, Took elapsed t act t' change ∧ Reporting change e e') ∧
      ∀ b, act = .looked b → e.reports.isPublishing = b := by
  unfold step? at h
  split at h
  · next hstand =>
    split at h
    · next hacquire =>
      cases h
      exact ⟨⟨id, .acquired hstand, Executor.reporting_acquire hacquire⟩, by simp⟩
    · next hacquire =>
      cases h
      exact ⟨⟨id, .unacquired hstand, Executor.reporting_acquire hacquire⟩, by simp⟩
  · next c hstand =>
    split at h
    · next hattach =>
      cases h
      exact ⟨⟨id, .attached hstand, Executor.reporting_attach hattach⟩, by simp⟩
    · next hattach =>
      cases h
      exact ⟨⟨id, .unattached hstand,
        Executor.reporting_close.after (Executor.reporting_attach hattach)⟩, by simp⟩
  · next c hstand =>
    cases h
    exact ⟨⟨id, .looked hstand, Executor.reporting_id rfl rfl⟩, by simp⟩
  · next c reported hstand =>
    cases h
    refine ⟨⟨_, .begun hstand, ?_⟩, by simp⟩
    cases reported
    · exact Executor.reporting_id rfl rfl
    · exact Executor.reporting_report
  · next c reported hstand =>
    have hsink : (e.peer.write c (FrameSequence.start t.request t.content).settled).2.sink =
        e.peer.sink := Peer.sink_write
    generalize e.peer.write c (FrameSequence.start t.request t.content).settled = wrote at h hsink
    obtain ⟨written, p⟩ := wrote
    have hwrote : Reporting id e { e with peer := p } := Executor.reporting_id rfl hsink
    cases written with
    | failed f =>
      cases h
      refine ⟨⟨_, .unwritten hstand, ?_⟩, by simp⟩
      exact ((Executor.reporting_endWrite reported false).after hwrote).before
        Executor.reporting_close
    | done | suspended =>
      cases h
      exact ⟨⟨_, .wrote hstand, (Executor.reporting_endWrite reported true).after hwrote⟩,
        by simp⟩
  · next c hstand =>
    split at h
    · split at h
      · cases h
        exact ⟨⟨id, .finished hstand, Executor.reporting_id rfl rfl⟩, by simp⟩
      · cases h
        exact ⟨⟨id, .redirected hstand, Executor.reporting_close⟩, by simp⟩
    · cases h
      exact ⟨⟨id, .finished hstand, Executor.reporting_close⟩, by simp⟩
    · cases h
      exact ⟨⟨id, .finished hstand, Executor.reporting_close⟩, by simp⟩
  · cases h

/-! ## Errands to which nothing comes in between -/

/-- The step from an errand with its executor to the next one, where no time passes. -/
def Step (patience : Duration) (s s' : Errand × Executor) : Prop :=
  ∃ act, s.1.step? patience .zero s.2 = some (act, s'.1, s'.2)

/-- Steps of an errand to which nothing comes in between. -/
def Steps (patience : Duration) : Errand × Executor → Errand × Executor → Prop :=
  Relation.ReflTransGen (Step patience)

variable {c : Connection} {s s₁ s₂ : Errand × Executor}

theorem Steps.trans (h : Steps patience s s₁) (h₁ : Steps patience s₁ s₂) :
    Steps patience s s₂ :=
  Relation.ReflTransGen.trans h h₁

theorem Steps.next (hs : Steps patience s (t, e))
    (h : t.step? patience .zero e = some (act, t', e')) : Steps patience s (t', e') :=
  hs.tail ⟨act, h⟩

theorem Steps.first (h : t.step? patience .zero e = some (act, t', e')) :
    Steps patience (t, e) (t', e') :=
  Steps.next .refl h

theorem beginWrite_eq : e.beginWrite = (e.reports.isPublishing,
    if e.reports.isPublishing then e.report (·.onSubmitted) else e) := by
  unfold Executor.beginWrite
  split
  · next h => rw [h]
  · next h => rw [Bool.eq_false_iff.2 h]

/-- The steps up to a write. -/
theorem steps_beginWrite (hstand : t.stand = .beginning c) :
    Steps patience (t, e) (t.moveTo (.writing c e.beginWrite.1), e.beginWrite.2) := by
  have hlook : t.step? patience .zero e = some (.looked e.reports.isPublishing,
      t.moveTo (.announcing c e.reports.isPublishing), e) := by
    simp only [step?, hstand]
  rw [beginWrite_eq]
  exact (Steps.first hlook).next rfl

/-- The steps that make a write end as the write does. -/
theorem steps_write (hstand : t.stand = .beginning c) :
    (∀ e', e.write c t.request t.content = (.ok (), e') →
      Steps patience (t, e) (t.moveTo (.awaiting c), e')) ∧
    ∀ f e', e.write c t.request t.content = (.error f, e') →
      Steps patience (t, e) (t.moveTo (.over (.failed f)), e'.close c) := by
  have hbegun : Steps patience (t, e) (t.moveTo (.writing c e.beginWrite.1), e.beginWrite.2) :=
    steps_beginWrite hstand
  unfold Executor.write
  generalize e.beginWrite = begun at hbegun ⊢
  obtain ⟨reported, e₁⟩ := begun
  dsimp only at hbegun ⊢
  rcases hwrote : e₁.peer.write c (FrameSequence.start t.request t.content).settled with
    ⟨_ | f | _, p⟩
  case failed =>
    refine ⟨by simp, ?_⟩
    rintro _ _ ⟨⟩
    apply hbegun.next
    · simp only [step?, moveTo, hwrote]
      rfl
  all_goals
    refine ⟨?_, by simp⟩
    rintro _ ⟨⟩
    apply hbegun.next
    · simp only [step?, moveTo, hwrote]
      rfl

/-- The steps up to a connection with an identity. -/
theorem steps_attach {c₂ : Connection} {e₁ : Executor} (hstand : t.stand = .acquiring)
    (hacquire : e.acquire t.request = (.ok c, e₁))
    (hattach : e₁.attach c t.request = (.ok c₂, e')) :
    Steps patience (t, e) (t.moveTo (.beginning c₂), e') := by
  have hfirst : t.step? patience .zero e = some (.acquired true, t.moveTo (.attaching c), e₁) := by
    simp only [step?, hstand, hacquire]
  have hsecond : (t.moveTo (.attaching c)).step? patience .zero e₁ =
      some (.attached true, t.moveTo (.beginning c₂), e') := by
    simp only [step?, moveTo, hattach]
  exact (Steps.first hfirst).next hsecond

/-- Closing goes by the record of a connection, which attaching does not change. -/
theorem close_of_attach {c₂ : Connection} {e₁ e₂ : Executor} {request : Descriptor}
    (hattach : e₁.attach c request = (.ok c₂, e₂)) : e.close c₂ = e.close c := by
  obtain ⟨context, rfl⟩ := Executor.eq_of_attach hattach
  rfl

/-- The steps of an attempt, up to its end or to the head of a response. -/
theorem steps_attempt (hstand : t.stand = .acquiring) {last : Ending Response}
    (h : e.attempt patience t.request t.content = (last, e')) :
    (∃ r c, last = .done r ∧ e'.readHead patience c = .done r ∧
      Steps patience (t, e) (t.moveTo (.awaiting c), e')) ∨
    (∀ r, last ≠ .done r) ∧ Steps patience (t, e) (t.moveTo (.over last), e') := by
  have hattempted := Executor.attempted e patience t.request t.content
  rw [h] at hattempted
  dsimp only at hattempted
  cases hattempted with
  | @unacquired f _ hacquire =>
    have hstep : t.step? patience .zero e =
        some (.acquired false, t.moveTo (.over (.failed f)), e') := by
      simp only [step?, hstand, hacquire]
    exact .inr ⟨by simp, Steps.first hstep⟩
  | @unattached c f e₁ e₂ hacquire hattach =>
    have hfirst : t.step? patience .zero e =
        some (.acquired true, t.moveTo (.attaching c), e₁) := by
      simp only [step?, hstand, hacquire]
    have hsecond : (t.moveTo (.attaching c)).step? patience .zero e₁ =
        some (.attached false, t.moveTo (.over (.failed f)), e₂.close c) := by
      simp only [step?, moveTo, hattach]
    exact .inr ⟨by simp, (Steps.first hfirst).next hsecond⟩
  | @unwritten c c₂ f e₁ e₂ e₃ hacquire hattach hwrite =>
    have hsteps : Steps patience (t, e) (t.moveTo (.over (.failed f)), e₃.close c₂) :=
      (steps_attach hstand hacquire hattach).trans ((steps_write rfl).2 f e₃ hwrite)
    rw [close_of_attach hattach] at hsteps
    exact .inr ⟨by simp, hsteps⟩
  | @unanswered c c₂ _ e₁ e₂ e₃ hacquire hattach hwrite hread hunfinished =>
    have hsteps : Steps patience (t, e) (t.moveTo (.awaiting c₂), e₃) :=
      (steps_attach hstand hacquire hattach).trans ((steps_write rfl).1 e₃ hwrite)
    have hclose : e₃.close c₂ = e₃.close c := close_of_attach hattach
    have hlast : (t.moveTo (.awaiting c₂)).step? patience .zero e₃ =
        some (.read, t.moveTo (.over last), e₃.close c) := by
      cases last with
      | done r => exact absurd rfl (hunfinished r)
      | failed f => simp only [step?, moveTo, hread, hclose]
      | abandoned => simp only [step?, moveTo, hread, hclose]
    exact .inr ⟨hunfinished, hsteps.next hlast⟩
  | @answered c c₂ r e₁ e₂ _ hacquire hattach hwrite hread =>
    refine .inl ⟨r, c₂, rfl, hread, ?_⟩
    exact (steps_attach hstand hacquire hattach).trans ((steps_write rfl).1 e' hwrite)

/-- The errand that makes the attempt of a leg. -/
def ofLeg (n : Nat) (l : Executor.Leg) : Errand :=
  { request := l.request, content := l.content, budget := l.budget, attempt := n }

/-- The steps of an attempt that are not the last one lead to the next attempt. -/
theorem steps_next {l l' : Executor.Leg} (n : Nat) (h : l.next? patience = some l') :
    Steps patience (ofLeg n l, l.executor) (ofLeg (n + 1) l', l'.executor) := by
  unfold Executor.Leg.next? at h
  split at h
  · next r e' hattempt =>
    split at h
    · cases h
    · next target next hdecide =>
      cases h
      rcases steps_attempt (t := ofLeg n l) rfl hattempt with
        ⟨r, c, ⟨⟩, hread, hsteps⟩ | ⟨hnot, -⟩
      · have hfollow : ((ofLeg n l).moveTo (.awaiting c)).step? patience .zero e' =
            some (.read, ofLeg (n + 1) (l.hop e' r target next), e'.close r.connection) := by
          simp only [step?, moveTo, ofLeg, hread, hdecide]
          rfl
        exact hsteps.next hfollow
      · exact absurd rfl (hnot r)
  · cases h

/-- The steps of the last attempt end as the attempt does. -/
theorem steps_last {l : Executor.Leg} (n : Nat) (h : l.next? patience = none) :
    ∃ t', Steps patience (ofLeg n l, l.executor) (t', (l.attempt patience).2) ∧
      t'.stand = .over (l.attempt patience).1 := by
  rcases hattempt : l.attempt patience with ⟨last, e'⟩
  rcases steps_attempt (t := ofLeg n l) rfl hattempt with
    ⟨r, c, rfl, hread, hsteps⟩ | ⟨-, hsteps⟩
  · simp only [Executor.Leg.next?, hattempt] at h
    split at h
    · next hdecide =>
      have hdeliver : ((ofLeg n l).moveTo (.awaiting c)).step? patience .zero e' =
          some (.read, (ofLeg n l).moveTo (.over (.done r)), e') := by
        simp only [step?, moveTo, ofLeg, hread, hdecide]
      exact ⟨_, hsteps.next hdeliver, rfl⟩
    · cases h
  · exact ⟨_, hsteps, rfl⟩

/-- An errand to which nothing comes in between ends as the execution does, and leaves the executor
as the execution does. -/
theorem steps_execute (patience : Duration) (l : Executor.Leg) (n : Nat) :
    ∃ t', Steps patience (ofLeg n l, l.executor) (t', (l.execute patience).2) ∧
      t'.stand = .over (l.execute patience).1 := by
  fun_induction Executor.Leg.legs patience l generalizing n with
  | case1 l l' hnext ih =>
    obtain ⟨t', hsteps, hover⟩ := ih (n + 1)
    rw [Executor.Leg.execute_of_next?_eq_some hnext]
    exact ⟨t', (steps_next n hnext).trans hsteps, hover⟩
  | case2 l hnext =>
    rw [Executor.Leg.execute_of_next?_eq_none hnext]
    exact steps_last n hnext

/-- While an executor has a sink of its own, no step touches the one of the peer. -/
theorem sink_of_steps (h : Steps patience s s₁) (hown : s.2.sink.isSome = true) :
    s₁.2.sink.isSome = true ∧ s₁.2.peer.sink = s.2.peer.sink := by
  induction h with
  | refl => exact ⟨hown, rfl⟩
  | tail _ hstep ih =>
    obtain ⟨act, hstep⟩ := hstep
    obtain ⟨⟨change, -, hreporting⟩, -⟩ := took_of_step? hstep
    exact ⟨hreporting.keeps.trans ih.1, (hreporting.untouched ih.1).trans ih.2⟩

theorem sink_of_execute (l : Executor.Leg) (hown : l.executor.sink.isSome = true) :
    (l.execute patience).2.peer.sink = l.executor.peer.sink := by
  obtain ⟨t', hsteps, -⟩ := steps_execute patience l 0
  exact (sink_of_steps hsteps hown).2

end Errand

end Courier
