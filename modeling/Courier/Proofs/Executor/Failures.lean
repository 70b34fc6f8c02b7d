import Courier.Proofs.Executor.Records
import Mathlib.Logic.Basic

/-!
# Where an execution fails

Which stage of an attempt fails is settled by its exchange, by the identity that the correlator
gives, by the source of its content and by the read timeout. Whatever a collaborator reports there,
the failure has the stage. A failed attempt is the last one of its execution.
-/

namespace Courier

/-! ## Writes -/

theorem FrameSequence.forall_frame_iff {request : Descriptor} {content : Content} :
    (∀ poll ∈ (start request content).settled, ∃ f, poll = .frame f) ↔ content.Readable := by
  refine ⟨fun h => ?_, forall_frame_of_readable⟩
  rw [settled_start] at h
  obtain ⟨f, hf⟩ := h _ (List.mem_append_right _ List.mem_cons_self)
  unfold ending at hf
  split at hf
  · cases hf
  · assumption

namespace Peer

variable {p : Peer} {c : Connection} {polls : List FramePoll}

theorem writeFrames_eq_done_iff (hconduct : c.exchange.conduct ≠ .failWrite)
    (hpolls : Settled polls) :
    (p.writeFrames c polls).1 = .done ↔ ∀ poll ∈ polls, ∃ f, poll = .frame f := by
  fun_induction writeFrames p c polls with
  | case1 p => simp
  | case2 p rest => exact absurd List.mem_cons_self hpolls.waits
  | case3 p f rest hfails => exact absurd hfails hconduct
  | case4 p f rest q hlast =>
    obtain rfl := hpolls.ends [] f rest rfl hlast
    simp
  | case5 p f rest q hlast _ ih =>
    rw [ih hpolls.tail]
    simp
  | case6 p e rest hfails => exact absurd hfails hconduct
  | case7 p e rest => simp

theorem writeFrames_ne_done_of_failWrite (hconduct : c.exchange.conduct = .failWrite)
    (hne : polls ≠ []) : (p.writeFrames c polls).1 ≠ .done := by
  cases polls with
  | nil => exact absurd rfl hne
  | cons poll rest => cases poll <;> simp [writeFrames, hconduct]

theorem write_eq_done_iff (hpolls : Settled polls) (hne : polls ≠ []) :
    (p.write c polls).1 = .done ↔
      c.exchange.TakesFrames ∧ ∀ poll ∈ polls, ∃ f, poll = .frame f := by
  unfold write
  split
  · next f hfailure =>
    refine ⟨fun h => (nomatch h), ?_⟩
    rintro ⟨⟨hnone, -⟩, -⟩
    cases hfailure.symm.trans hnone
  · next hnone =>
    by_cases hconduct : c.exchange.conduct = .failWrite
    · refine ⟨fun h => absurd h (writeFrames_ne_done_of_failWrite hconduct hne), ?_⟩
      rintro ⟨⟨-, hnot⟩, -⟩
      exact absurd hconduct hnot
    · rw [writeFrames_eq_done_iff hconduct hpolls]
      exact ⟨fun h => ⟨⟨hnone, hconduct⟩, h⟩, And.right⟩

end Peer

/-! ## Settings -/

/-- What an attempt finds: its exchange, the identity that the correlator gives it, if there is a
correlator, its content, and the longest wait for a head. -/
structure Setting where
  exchange : Option Exchange
  identity : Option (Except Failure Context)
  content : Content
  readTimeout : Option Duration

namespace Setting

/-- The request cannot be written in this setting: the correlator fails, or the control channel, or
the source of the content, or the write. -/
def CannotWrite (s : Setting) (x : Exchange) : Prop :=
  (∃ f, s.identity = some (.error f)) ∨ (s.identity ≠ none ∧ ¬ x.TakesControl) ∨
    (∃ fault, ContentItem.firstFault? s.content.items = some fault) ∨ ¬ x.TakesFrames

/-- An attempt in this setting fails at a stage. -/
inductive FailsAt (s : Setting) (patience : Duration) : Stage → Prop
  | connect (refuses : ∀ x, s.exchange = some x → ¬ x.GivesConnection) : s.FailsAt patience .connect
  | write {x : Exchange} (exchange : s.exchange = some x) (gives : x.GivesConnection)
    (fails : s.CannotWrite x) : s.FailsAt patience .write
  | timeout {x : Exchange} {limit : Duration} (exchange : s.exchange = some x)
    (gives : x.GivesConnection) (writes : ¬ s.CannotWrite x) (silent : x.conduct = .silent)
    (waits : s.readTimeout = some limit) (elapses : limit.nanos ≤ patience.nanos) :
    s.FailsAt patience .timeout
  | read {x : Exchange} (exchange : s.exchange = some x) (gives : x.GivesConnection)
    (writes : ¬ s.CannotWrite x) (speaks : x.conduct ≠ .silent) (fails : x.head? = none) :
    s.FailsAt patience .read

variable {s : Setting} {patience : Duration} {x : Exchange} {stage stage' : Stage}

/-- At most one stage of an attempt fails. -/
theorem FailsAt.eq (h : s.FailsAt patience stage) (h' : s.FailsAt patience stage') :
    stage = stage' := by
  cases h <;> cases h' <;> grind

end Setting

namespace Executor

variable {e e₁ : Executor} {c c₁ : Connection} {request : Descriptor} {content : Content}
  {patience : Duration}

theorem write_eq_ok_iff : (e.write c request content).1 = .ok () ↔
    c.exchange.TakesFrames ∧ content.Readable := by
  obtain ⟨p, -, -, hok, -⟩ := write_eq e c request content
  rw [hok, p.write_eq_done_iff (Peer.settled_start request content) settled_start_ne_nil,
    FrameSequence.forall_frame_iff]

/-- All that reading a head can do on a new connection. -/
theorem readHead_cases (e : Executor) (patience : Duration) (hopen : c.closed = false)
    (hmessages : c.messages = c.exchange.conduct.messages) :
    (c.exchange.conduct = .silent ∧
      ((∃ limit, e.readTimeout = some limit ∧ limit.nanos ≤ patience.nanos ∧
        e.readHead patience c = .failed (.ofCause .timeout (.timedOut limit))) ∨
      ((∀ limit, e.readTimeout = some limit → ¬ limit.nanos ≤ patience.nanos) ∧
        e.readHead patience c = .abandoned))) ∨
    (c.exchange.conduct ≠ .silent ∧ c.exchange.head? = none ∧
      ∃ f, f.stage = .read ∧ e.readHead patience c = .failed f) ∨
    (c.exchange.conduct ≠ .silent ∧ c.exchange.head? ≠ none ∧
      ∃ r, e.readHead patience c = .done r) := by
  by_cases hsilent : c.exchange.conduct = .silent
  · have hread : c.read = (.silence, c) := by simp [Connection.read, hopen, hsilent]
    refine .inl ⟨hsilent, ?_⟩
    simp only [readHead, hread]
    cases e.readTimeout with
    | none => exact .inr ⟨by simp, rfl⟩
    | some limit =>
      by_cases helapses : limit.nanos ≤ patience.nanos
      · exact .inl ⟨limit, rfl, helapses, by simp [helapses]⟩
      · exact .inr ⟨by simpa using helapses, by simp [helapses]⟩
  refine .inr ?_
  unfold Exchange.head?
  rw [← hmessages]
  cases hrest : c.messages with
  | nil =>
    have hread : c.read = (.ended, c) := by simp [Connection.read, hopen, hrest]
    refine .inl ⟨hsilent, rfl, .ofCause .read .connectionClosed, rfl, ?_⟩
    simp only [readHead, hread]
  | cons message rest =>
    cases message with
    | error f =>
      have hread : c.read = (.failed f, { c with messages := rest }) := by
        simp [Connection.read, hopen, hrest]
      exact .inl ⟨hsilent, rfl, _, f.stage_reclassify .read, by simp only [readHead, hread]⟩
    | ok m =>
      have hread : c.read = (.message m, { c with messages := rest }) := by
        simp [Connection.read, hopen, hrest]
      cases m with
      | head head => exact .inr ⟨hsilent, by simp, _, by simp only [readHead, hread]; rfl⟩
      | body _ | trailers _ | finished =>
        refine .inl ⟨hsilent, rfl, .ofCause .read (.unexpectedMessage "expected response head"),
          rfl, ?_⟩
        simp only [readHead, hread]

/-! ## Attempts -/

/-- What the attempt after `k` others finds. -/
def setting (e : Executor) (k : Nat) (request : Descriptor) (content : Content) : Setting :=
  { exchange := e.peer.script.exchange? k
    identity := e.correlator.map fun κ => (κ.after k).identity request
    content
    readTimeout := e.readTimeout }

theorem not_readable_iff : ¬ content.Readable ↔
    ∃ fault, ContentItem.firstFault? content.items = some fault :=
  Option.ne_none_iff_exists'

/-- Once an identity is attached, the request is written just if its frames go out. -/
theorem writes_iff_of_attach (hattach : e.attach c request = (.ok c₁, e₁)) :
    e.Writes c request content ↔ c.exchange.TakesFrames ∧ content.Readable := by
  obtain ⟨context, rfl⟩ := eq_of_attach hattach
  rw [writes_iff hattach, write_eq_ok_iff]

/-- The write of a connection succeeds just if nothing in its setting stands against it. -/
theorem writes_iff_not_cannotWrite :
    e.Writes c request content ↔ ¬ (e.setting 0 request content).CannotWrite c.exchange := by
  unfold Setting.CannotWrite setting
  cases hκ : e.correlator with
  | none =>
    rw [writes_iff_of_attach (attach_of_none hκ), ← not_readable_iff]
    simp [and_comm]
  | some κ =>
    rcases attach_cases hκ c request with
      ⟨context, hidentity, hcontrol, hattach⟩ | ⟨hnot, f, -, hattach⟩
    · rw [writes_iff_of_attach hattach, ← not_readable_iff]
      simp [hidentity, hcontrol, and_comm]
    · have hnever : ¬ e.Writes c request content := by
        rintro ⟨c₁, e₁, e₂, hagain, -⟩
        cases hattach.symm.trans hagain
      refine iff_of_false hnever (not_not_intro ?_)
      cases hidentity : κ.identity request with
      | error f => exact .inl ⟨f, by simp [hidentity]⟩
      | ok context => exact .inr (.inl ⟨by simp, hnot context hidentity⟩)

/-- What is known of the setting of an attempt that acquired a connection. -/
theorem setting_of_acquire (h : e.acquire request = (.ok c, e₁)) (content : Content) :
    (e.setting 0 request content).exchange = some c.exchange ∧ c.exchange.GivesConnection ∧
      c.closed = false ∧ c.messages = c.exchange.conduct.messages ∧
      e₁.readTimeout = e.readTimeout ∧
      ((e.setting 0 request content).CannotWrite c.exchange ↔ ¬ e₁.Writes c request content) := by
  obtain ⟨x, hx, hgives, rfl, rfl⟩ := acquire_eq_ok h
  rw [← Script.exchange?_zero] at hx
  exact ⟨hx, hgives, rfl, rfl, rfl, iff_not_comm.1 writes_iff_not_cannotWrite⟩

/-- Where the request is written, only reading can fail. -/
theorem failsAt_of_readHead {s : Setting} (hexchange : s.exchange = some c.exchange)
    (hgives : c.exchange.GivesConnection) (hwrites : ¬ s.CannotWrite c.exchange)
    (hopen : c.closed = false) (hmessages : c.messages = c.exchange.conduct.messages)
    (htimeout : e.readTimeout = s.readTimeout) :
    (∀ f, e.readHead patience c = .failed f →
      s.FailsAt patience f.stage ∧ f.stage ≠ .connect) ∧
    ((∀ f, e.readHead patience c ≠ .failed f) → ∀ stage, ¬ s.FailsAt patience stage) := by
  rcases readHead_cases e patience hopen hmessages with
    ⟨hsilent, ⟨limit, hlimit, helapses, hread⟩ | ⟨hlimit, hread⟩⟩ |
    ⟨hspeaks, hhead, f, hstage, hread⟩ | ⟨hspeaks, hhead, r, hread⟩
  · rw [hread]
    refine ⟨?_, fun h => absurd rfl (h _)⟩
    rintro f ⟨⟩
    exact ⟨.timeout hexchange hgives hwrites hsilent (htimeout ▸ hlimit) helapses, nofun⟩
  · rw [hread]
    refine ⟨by simp, ?_⟩
    rintro - stage hfails
    cases hfails <;> grind
  · rw [hread]
    refine ⟨?_, fun h => absurd rfl (h _)⟩
    rintro f ⟨⟩
    rw [hstage]
    exact ⟨.read hexchange hgives hwrites hspeaks hhead, nofun⟩
  · rw [hread]
    refine ⟨by simp, ?_⟩
    rintro - stage hfails
    cases hfails <;> grind

theorem failsAt_of_write (patience : Duration) {c₂ : Connection} {e₂ e₃ : Executor}
    (hacquire : e.acquire request = (.ok c, e₁)) (hattach : e₁.attach c request = (.ok c₂, e₂))
    (hwrite : e₂.write c₂ request content = (.ok (), e₃)) :
    (∀ f, e₃.readHead patience c₂ = .failed f →
      (e.setting 0 request content).FailsAt patience f.stage ∧ f.stage ≠ .connect) ∧
    ((∀ f, e₃.readHead patience c₂ ≠ .failed f) →
      ∀ stage, ¬ (e.setting 0 request content).FailsAt patience stage) := by
  obtain ⟨hexchange, hgives, hopen, hmessages, htimeout, hcannot⟩ :=
    setting_of_acquire hacquire content
  obtain ⟨context, rfl⟩ := eq_of_attach hattach
  have hattached : SameCourse e₁ (e₁.attach c request).2 := sameCourse_attach e₁
  have hwritten : SameCourse e₂ (e₂.write { c with correlation := context } request content).2 :=
    sameCourse_write e₂
  rw [hattach] at hattached
  rw [hwrite] at hwritten
  have hwrites : ¬ (e.setting 0 request content).CannotWrite c.exchange := by
    rw [hcannot, not_not]
    exact ⟨_, _, _, hattach, hwrite⟩
  exact failsAt_of_readHead hexchange hgives hwrites hopen hmessages
    (hwritten.readTimeout.trans (hattached.readTimeout.trans htimeout))

variable {ending : Ending Response} {e' : Executor}

/-- An attempt fails at the stage that its setting says, and otherwise it does not fail. -/
theorem Attempted.failsAt (h : Attempted e patience request content ending e') :
    (∀ f, ending = .failed f → (e.setting 0 request content).FailsAt patience f.stage ∧
      (f.stage = .connect → f.uri? = some request.uri)) ∧
    ((∀ f, ending ≠ .failed f) → ∀ s, ¬ (e.setting 0 request content).FailsAt patience s) := by
  cases h with
  | unacquired hacquire =>
    obtain ⟨hrefuses, hstage, huri, -⟩ := acquire_eq_error hacquire
    rw [← Script.exchange?_zero] at hrefuses
    refine ⟨?_, fun h => absurd rfl (h _)⟩
    rintro f ⟨⟩
    exact ⟨hstage ▸ .connect hrefuses, fun _ => huri⟩
  | unattached hacquire hattach =>
    obtain ⟨hexchange, hgives, -, -, -, hcannot⟩ := setting_of_acquire hacquire content
    obtain ⟨hstage, -⟩ := attach_eq_error hattach
    refine ⟨fun f hf => ?_, fun h => absurd rfl (h _)⟩
    obtain rfl := Ending.failed.inj hf
    rw [hstage]
    refine ⟨.write hexchange hgives (hcannot.2 ?_), nofun⟩
    rintro ⟨c₁, e₁, e₂, hagain, -⟩
    cases hattach.symm.trans hagain
  | unwritten hacquire hattach hwrite =>
    obtain ⟨hexchange, hgives, -, -, -, hcannot⟩ := setting_of_acquire hacquire content
    obtain ⟨-, -, -, -, hstage⟩ := write_eq _ _ request content
    refine ⟨fun f hf => ?_, fun h => absurd rfl (h _)⟩
    obtain rfl := Ending.failed.inj hf
    rw [hstage _ (congrArg Prod.fst hwrite)]
    refine ⟨.write hexchange hgives (hcannot.2 ?_), nofun⟩
    rw [writes_iff hattach, hwrite]
    exact nofun
  | unanswered hacquire hattach hwrite hread
  | answered hacquire hattach hwrite hread =>
    rw [← hread]
    obtain ⟨hfails, hnot⟩ := failsAt_of_write patience hacquire hattach hwrite
    exact ⟨fun f hf => ⟨(hfails f hf).1, fun h => absurd h (hfails f hf).2⟩, hnot⟩

namespace Leg

variable {l l' m : Leg} {k : Nat}

/-! ## Legs -/

/-- A leg that leads to another one takes one exchange, and the wait for a head stays as it is. -/
theorem course_of_next? (h : l.next? patience = some l') :
    l'.executor.peer.script = l.executor.peer.script.next.2 ∧
      l'.executor.readTimeout = l.executor.readTimeout := by
  obtain ⟨r, e, target, hattempt, -, -, -, rfl⟩ := next?_eq_some_iff.1 h
  have hcourse : SameCourse (l.executor.acquire l.request).2 (l.attempt patience).2 :=
    sameCourse_attempt
  rw [hattempt] at hcourse
  have hscript : e.peer.script = l.executor.peer.script.next.2 := script_of_attempt hattempt
  exact ⟨hscript, hcourse.readTimeout⟩

theorem course_of_leg (hk : (l.legs patience)[k]? = some m) :
    (∀ j, m.executor.peer.script.exchange? j = l.executor.peer.script.exchange? (k + j)) ∧
      m.executor.readTimeout = l.executor.readTimeout := by
  refine forall_legs (P := fun k m =>
    (∀ j, m.executor.peer.script.exchange? j = l.executor.peer.script.exchange? (k + j)) ∧
      m.executor.readTimeout = l.executor.readTimeout) ?_ ?_ k m hk
  · exact ⟨fun j => by rw [Nat.zero_add], rfl⟩
  · rintro k m m' ⟨hscript, htimeout⟩ hnext
    obtain ⟨hnew, hsame⟩ := course_of_next? hnext
    refine ⟨fun j => ?_, hsame.trans htimeout⟩
    rw [hnew, ← Script.exchange?_succ, hscript, Nat.add_right_comm, Nat.add_assoc]

/-- The leg after `k` others finds what the execution has for it. -/
theorem setting_of_leg (hk : (l.legs patience)[k]? = some m) :
    m.executor.setting 0 m.request m.content = l.executor.setting k m.request m.content := by
  obtain ⟨hscript, htimeout⟩ := course_of_leg hk
  unfold setting
  rw [hscript, htimeout, correlator_of_leg hk, Option.map_map]
  rfl

end Leg

/-! ## Executions -/

/-- An executor whose peer redirects one request and refuses the next. -/
def interrupted : Executor :=
  { peer := { script := .list [.ofStatus ⟨302⟩, { conduct := .refuse }, .ofStatus ⟨200⟩] }
    rules := { resolver := fun _ _ => some .root } }

end Executor

end Courier
