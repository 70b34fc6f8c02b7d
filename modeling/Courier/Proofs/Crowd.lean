import Courier.Proofs.Executor.Errand
import Courier.Proofs.Metrics
import Mathlib.Algebra.Ring.Int.Defs

/-!
# Executions with one collector

Any number of executions may report to one collector, in any order of their steps, while reports
are switched on and off. Each of them may have an executor of its own, so that a step may find
anything but another collector. Whatever the order, the collector counts each reported write once
when it begins and once when it ends.
-/

namespace Courier

/-! ## Steps of an errand, seen from the collector -/

namespace Errand

open Executor (ending)

variable {elapsed : Duration} {t t' : Errand} {act : Act} {change : Metrics → Metrics}

/-- Whether the errand is in the middle of a write that is reported. -/
def isReporting (t : Errand) : Bool :=
  match t.stand with
  | .writing _ reported => reported
  | _ => false

/-- Where an attempt of the errand stands. One that another one followed is over, and one that has
not been made is at its start. -/
def standOf (t : Errand) (k : Nat) : Stand :=
  if k < t.attempt then .over .abandoned else if k = t.attempt then t.stand else .acquiring

/-- A step moves no attempt but its own. -/
theorem standOf_of_took (h : Took elapsed t act t' change) {k : Nat} (hk : k ≠ t.attempt) :
    t'.standOf k = t.standOf k := by
  have hmove : ∀ stand, (t.moveTo stand).standOf k = t.standOf k := by
    intro stand
    simp [standOf, moveTo, hk]
  cases h with
  | redirected hstand =>
    by_cases hbefore : k < t.attempt
    · simp [standOf, again, hbefore, show k < t.attempt + 1 by omega]
    · simp only [standOf, again, hbefore, hk, show ¬ k < t.attempt + 1 by omega, if_false]
      exact ite_self _
  | _ => exact hmove _

/-- What a step adds to the writes that have begun it adds to those that are in progress or to
those that have ended. -/
theorem balance_of_took (h : Took elapsed t act t' change) (m : Metrics) :
    (change m).submitted + m.finished + t.isReporting.toNat =
      m.submitted + (change m).finished + t'.isReporting.toNat := by
  cases h with
  | @begun c reported hstand =>
    cases reported with
    | false => simp [isReporting, moveTo, hstand]
    | true =>
      simp [isReporting, moveTo, hstand, Metrics.onSubmitted, Metrics.finished]
      omega
  | @wrote c reported hstand =>
    cases reported with
    | false => simp [isReporting, moveTo, hstand, ending]
    | true =>
      simp [isReporting, moveTo, hstand, ending, Metrics.onComplete, Metrics.addTime,
        Metrics.finished]
      omega
  | @unwritten c reported f hstand =>
    cases reported with
    | false => simp [isReporting, moveTo, hstand, ending]
    | true =>
      simp [isReporting, moveTo, hstand, ending, Metrics.onFailed, Metrics.addTime,
        Metrics.finished]
      omega
  | _ hstand => simp [isReporting, moveTo, again, hstand]

/-- A step makes one report, or none. -/
theorem reports_of_took (h : Took elapsed t act t' change) :
    ∃ reports : List Report, reports.length ≤ 1 ∧
      ∀ m, change m = reports.foldl Metrics.onReport m := by
  cases h with
  | @begun c reported hstand =>
    cases reported with
    | false => exact ⟨[], Nat.zero_le _, fun _ => rfl⟩
    | true => exact ⟨[.submitted], Nat.le_refl _, fun _ => rfl⟩
  | @wrote c reported hstand =>
    cases reported with
    | false => exact ⟨[], Nat.zero_le _, fun _ => rfl⟩
    | true => exact ⟨[.ended ⟨true, elapsed⟩], Nat.le_refl _, fun _ => rfl⟩
  | @unwritten c reported f hstand =>
    cases reported with
    | false => exact ⟨[], Nat.zero_le _, fun _ => rfl⟩
    | true => exact ⟨[.ended ⟨false, elapsed⟩], Nat.le_refl _, fun _ => rfl⟩
  | _ => exact ⟨[], Nat.zero_le _, fun _ => rfl⟩

/-- The acts of an attempt up to where it stands. Whether its write is reported is what it found
when it looked. -/
inductive Path : List Act → Stand → Prop
  | acquiring : Path [] .acquiring
  | unacquired {last : Ending Response} : Path [.acquired false] (.over last)
  | attaching {c : Connection} : Path [.acquired true] (.attaching c)
  | unattached {last : Ending Response} : Path [.acquired true, .attached false] (.over last)
  | beginning {c : Connection} : Path [.acquired true, .attached true] (.beginning c)
  | announcing {c : Connection} {found : Bool} :
    Path [.acquired true, .attached true, .looked found] (.announcing c found)
  | writing {c : Connection} {found : Bool} :
    Path [.acquired true, .attached true, .looked found, .begun found] (.writing c found)
  | unwritten {last : Ending Response} {found : Bool} :
    Path [.acquired true, .attached true, .looked found, .begun found, .wrote false] (.over last)
  | awaiting {c : Connection} {found : Bool} :
    Path [.acquired true, .attached true, .looked found, .begun found, .wrote true] (.awaiting c)
  | answered {last : Ending Response} {found : Bool} :
    Path [.acquired true, .attached true, .looked found, .begun found, .wrote true, .read]
      (.over last)
  | cancelled {last : Ending Response} {found : Bool} :
    Path [.acquired true, .attached true, .looked found, .begun found, .wrote true, .cancelled]
      (.over last)

theorem path_of_took {acts : List Act} (hpath : Path acts t.stand)
    (h : Took elapsed t act t' change) : Path (acts ++ [act]) (t'.standOf t.attempt) := by
  have hmove : ∀ stand, (t.moveTo stand).standOf t.attempt = stand := by
    intro stand
    simp [standOf, moveTo]
  cases h with
  | redirected hstand =>
    rw [hstand] at hpath
    cases hpath
    simp only [standOf, again, show t.attempt < t.attempt + 1 by omega, if_true]
    exact .answered
  | _ hstand =>
    rw [hmove]
    rw [hstand] at hpath
    cases hpath
    constructor

end Errand

/-! ## Deeds -/

/-- What one step did: the errand, by its place, the attempt that the step belongs to, and the
collector before and after. -/
structure Deed where
  errand : Nat
  attempt : Nat
  act : Act
  before : Metrics
  after : Metrics

namespace Deed

/-- The acts of some deeds. -/
def acts (deeds : List Deed) : List Act :=
  deeds.map (·.act)

/-- What some deeds add to a count of the collector. -/
def added (count : Metrics → Nat) (deeds : List Deed) : Int :=
  (deeds.map fun d => (count d.after : Int) - count d.before).sum

/-- The deeds of one attempt. -/
def ofAttempt (i k : Nat) (deeds : List Deed) : List Deed :=
  deeds.filter fun d => d.errand == i && d.attempt == k

/-- What the deeds of one attempt are, up to where it stands, and what they add to the counts. -/
structure Course (deeds : List Deed) (stand : Stand) : Prop where
  path : Errand.Path (acts deeds) stand
  found : ∀ d ∈ deeds, ∀ publishing, d.act = .looked publishing → d.before.enabled = publishing
  submitted : added (·.submitted) deeds = if .begun true ∈ acts deeds then 1 else 0
  complete : added (·.complete) deeds =
    if .begun true ∈ acts deeds ∧ .wrote true ∈ acts deeds then 1 else 0
  failed : added (·.failed) deeds =
    if .begun true ∈ acts deeds ∧ .wrote false ∈ acts deeds then 1 else 0

variable {deeds : List Deed} {d : Deed} {i k : Nat} {count : Metrics → Nat}

theorem acts_append : acts (deeds ++ [d]) = acts deeds ++ [d.act] := by
  simp [acts]

theorem added_append :
    added count (deeds ++ [d]) = added count deeds + ((count d.after : Int) - count d.before) := by
  simp [added]

theorem ofAttempt_append :
    ofAttempt i k (deeds ++ [d]) =
      if d.errand = i ∧ d.attempt = k then ofAttempt i k deeds ++ [d] else ofAttempt i k deeds := by
  simp only [ofAttempt, List.filter_append, List.filter_cons, List.filter_nil, Bool.and_eq_true,
    beq_iff_eq]
  split
  · rfl
  · exact List.append_nil _

theorem course_nil : Course [] .acquiring :=
  ⟨.acquiring, by simp, rfl, rfl, rfl⟩

/-- What a step of an attempt adds to the counts, by what the attempt has done before. -/
theorem counts_of_took {elapsed : Duration} {t t' : Errand} {act : Act} {acts : List Act}
    {change : Metrics → Metrics} (hpath : Errand.Path acts t.stand)
    (h : Errand.Took elapsed t act t' change) (m : Metrics) :
    (if .begun true ∈ acts then 1 else 0) + (((change m).submitted : Int) - m.submitted) =
      (if .begun true ∈ acts ++ [act] then 1 else 0) ∧
    (if .begun true ∈ acts ∧ .wrote true ∈ acts then 1 else 0) +
        (((change m).complete : Int) - m.complete) =
      (if .begun true ∈ acts ++ [act] ∧ .wrote true ∈ acts ++ [act] then 1 else 0) ∧
    (if .begun true ∈ acts ∧ .wrote false ∈ acts then 1 else 0) +
        (((change m).failed : Int) - m.failed) =
      (if .begun true ∈ acts ++ [act] ∧ .wrote false ∈ acts ++ [act] then 1 else 0) := by
  cases h with
  | @begun c reported hstand =>
    rw [hstand] at hpath
    cases hpath
    cases reported with
    | false => simp
    | true => simp [Metrics.onSubmitted, add_sub_cancel_left]
  | @wrote c reported hstand =>
    rw [hstand] at hpath
    cases hpath
    cases reported with
    | false => simp [Executor.ending]
    | true => simp [Executor.ending, Metrics.onComplete, Metrics.addTime, add_sub_cancel_left]
  | @unwritten c reported f hstand =>
    rw [hstand] at hpath
    cases hpath
    cases reported with
    | false => simp [Executor.ending]
    | true => simp [Executor.ending, Metrics.onFailed, Metrics.addTime, add_sub_cancel_left]
  | _ hstand =>
    rw [hstand] at hpath
    cases hpath
    simp

/-- A step carries the course of its attempt on. -/
theorem course_of_took {elapsed : Duration} {t t' : Errand} {change : Metrics → Metrics}
    (hcourse : Course deeds t.stand) (h : Errand.Took elapsed t d.act t' change)
    (hafter : d.after = change d.before)
    (hfound : ∀ publishing, d.act = .looked publishing → d.before.enabled = publishing) :
    Course (deeds ++ [d]) (t'.standOf t.attempt) := by
  obtain ⟨hsubmitted, hcomplete, hfailed⟩ := counts_of_took hcourse.path h d.before
  constructor
  · rw [acts_append]
    exact Errand.path_of_took hcourse.path h
  · intro x hx publishing hact
    rcases List.mem_append.1 hx with hx | hx
    · exact hcourse.found x hx publishing hact
    · cases List.mem_singleton.1 hx
      exact hfound publishing hact
  · rw [added_append, acts_append, hafter, hcourse.submitted]
    exact hsubmitted
  · rw [added_append, acts_append, hafter, hcourse.complete]
    exact hcomplete
  · rw [added_append, acts_append, hafter, hcourse.failed]
    exact hfailed

/-- An attempt that is cancelled while it awaits a head adds nothing more. -/
theorem course_of_cancelled {c : Connection} {last : Ending Response}
    (hcourse : Course deeds (.awaiting c)) (hact : d.act = .cancelled)
    (hafter : d.after = d.before) : Course (deeds ++ [d]) (.over last) := by
  have hpath := hcourse.path
  have hsubmitted := hcourse.submitted
  have hcomplete := hcourse.complete
  have hfailed := hcourse.failed
  constructor
  · rw [acts_append, hact]
    generalize acts deeds = done at hpath
    cases hpath
    exact .cancelled
  · intro x hx publishing hlooked
    rcases List.mem_append.1 hx with hx | hx
    · exact hcourse.found x hx publishing hlooked
    · cases List.mem_singleton.1 hx
      cases hact.symm.trans hlooked
  all_goals simp [added_append, acts_append, hafter, hact, hsubmitted, hcomplete, hfailed]

end Deed

/-! ## Crowds -/

/-- Executions under way, and the collector that takes their reports. -/
structure Crowd where
  collector : Metrics := {}
  errands : List Errand := []

namespace Crowd

open Deed

/-- The reported writes that are in progress. -/
def inProgress (w : Crowd) : Nat :=
  w.errands.countP (·.isReporting)

/-- Where an attempt of one of the errands stands. -/
def standOf (w : Crowd) (i k : Nat) : Stand :=
  match w.errands[i]? with
  | some t => t.standOf k
  | none => .acquiring

/-- The crowds to which these deeds lead, from a fresh collector on. At any time an execution may
enter, reports may be switched on or off, and any errand may take a step with an executor that
reports to the collector. An errand may be cancelled while it awaits a head. -/
inductive Reached : List Deed → Crowd → Prop
  | start : Reached [] {}
  | enter {deeds : List Deed} {w : Crowd} (h : Reached deeds w) (request : Descriptor)
    (content : Content) (budget : Redirect.Budget) :
    Reached deeds { w with errands := w.errands ++ [{ request, content, budget }] }
  | switch {deeds : List Deed} {w : Crowd} (h : Reached deeds w) (enabled : Bool) :
    Reached deeds { w with collector := { w.collector with enabled } }
  | step {deeds : List Deed} {w : Crowd} {i : Nat} {t t' : Errand} {patience elapsed : Duration}
    {e e' : Executor} {act : Act} {m : Metrics} (h : Reached deeds w)
    (errand : w.errands[i]? = some t) (executor : e.reports = some w.collector)
    (step : t.step? patience elapsed e = some (act, t', e')) (collector : e'.reports = some m) :
    Reached (deeds ++ [⟨i, t.attempt, act, w.collector, m⟩])
      { collector := m, errands := w.errands.set i t' }
  | cancel {deeds : List Deed} {w : Crowd} {i : Nat} {t : Errand} {c : Connection}
    (h : Reached deeds w) (errand : w.errands[i]? = some t) (stand : t.stand = .awaiting c) :
    Reached (deeds ++ [⟨i, t.attempt, .cancelled, w.collector, w.collector⟩])
      { w with errands := w.errands.set i (t.moveTo (.over .abandoned)) }

variable {deeds : List Deed} {w : Crowd} {i k : Nat} {t t' : Errand}

theorem standOf_set (h : w.errands[i]? = some t) (collector : Metrics) (j k : Nat) :
    standOf { collector, errands := w.errands.set i t' } j k =
      if j = i then t'.standOf k else w.standOf j k := by
  unfold standOf
  by_cases hj : j = i
  · subst hj
    simp [List.getElem?_set_self (List.getElem?_eq_some_iff.1 h).1]
  · simp [hj, List.getElem?_set_ne (Ne.symm hj)]

theorem inProgress_set (h : w.errands[i]? = some t) (collector : Metrics) (t' : Errand) :
    inProgress { collector, errands := w.errands.set i t' } + t.isReporting.toNat =
      w.inProgress + t'.isReporting.toNat := by
  obtain ⟨hi, rfl⟩ := List.getElem?_eq_some_iff.1 h
  unfold inProgress
  rw [List.countP_set hi]
  by_cases hreporting : w.errands[i].isReporting = true
  · have hpos : 0 < w.errands.countP (·.isReporting) :=
      List.countP_pos_iff.2 ⟨_, List.getElem_mem hi, hreporting⟩
    cases ht' : t'.isReporting <;> simp [hreporting] <;> omega
  · cases ht' : t'.isReporting <;> simp [hreporting]

/-- An execution that enters has all its attempts before it. -/
theorem standOf_enter (w : Crowd) (request : Descriptor) (content : Content)
    (budget : Redirect.Budget) (i k : Nat) :
    standOf { w with errands := w.errands ++ [{ request, content, budget }] } i k =
      w.standOf i k := by
  unfold standOf
  by_cases hi : i < w.errands.length
  · rw [List.getElem?_append_left hi]
  · rw [List.getElem?_append_right (by omega), List.getElem?_eq_none (by omega : _ ≤ i)]
    by_cases hlast : i = w.errands.length
    · simp [hlast, Errand.standOf]
    · rw [List.getElem?_eq_none (by simp; omega)]

/-- A step of an attempt touches the course of no other one. -/
theorem course_set {d : Deed} (hcourse : ∀ j k, Course (ofAttempt j k deeds) (w.standOf j k))
    (ht : w.errands[d.errand]? = some t) (hattempt : d.attempt = t.attempt)
    (hown : Course (ofAttempt d.errand t.attempt deeds) t.stand →
      Course (ofAttempt d.errand t.attempt deeds ++ [d]) (t'.standOf t.attempt))
    (hother : ∀ k, k ≠ t.attempt → t'.standOf k = t.standOf k) (j k : Nat) :
    Course (ofAttempt j k (deeds ++ [d]))
      (standOf { collector := d.after, errands := w.errands.set d.errand t' } j k) := by
  rw [ofAttempt_append, standOf_set ht]
  have hbefore := hcourse j k
  by_cases hj : j = d.errand
  · subst hj
    rw [standOf, ht] at hbefore
    rw [if_pos rfl]
    by_cases hk : k = t.attempt
    · subst hk
      rw [if_pos ⟨rfl, hattempt⟩]
      apply hown
      simpa [Errand.standOf] using hbefore
    · rw [if_neg (fun h => hk (h.2.symm.trans hattempt)), hother k hk]
      exact hbefore
  · rw [if_neg (fun h => hj h.1.symm), if_neg hj]
    exact hbefore

/-- What is true of a crowd at any time: the writes that have begun are those that have ended and
those that are in progress, each attempt is on its course, and all that the collector counts comes
from the deeds. -/
structure Balanced (deeds : List Deed) (w : Crowd) : Prop where
  balance : w.collector.submitted = w.collector.finished + w.inProgress
  course : ∀ i k, Course (ofAttempt i k deeds) (w.standOf i k)
  submitted : added (·.submitted) deeds = w.collector.submitted
  complete : added (·.complete) deeds = w.collector.complete
  failed : added (·.failed) deeds = w.collector.failed

theorem balanced_start : Balanced [] {} :=
  ⟨rfl, fun _ _ => course_nil, rfl, rfl, rfl⟩

theorem Balanced.enter (h : Balanced deeds w) (request : Descriptor) (content : Content)
    (budget : Redirect.Budget) :
    Balanced deeds { w with errands := w.errands ++ [{ request, content, budget }] } := by
  refine ⟨?_, ?_, h.submitted, h.complete, h.failed⟩
  · rw [h.balance]
    simp [inProgress, Errand.isReporting]
  · intro i k
    rw [standOf_enter]
    exact h.course i k

theorem Balanced.switch (h : Balanced deeds w) (enabled : Bool) :
    Balanced deeds { w with collector := { w.collector with enabled } } :=
  ⟨h.balance, h.course, h.submitted, h.complete, h.failed⟩

/-- Deeds that add up to what the collector counts still do so after one more. -/
theorem added_collector {count : Metrics → Nat} {d : Deed}
    (h : added count deeds = count w.collector) (hd : d.before = w.collector) :
    added count (deeds ++ [d]) = count d.after := by
  rw [added_append, h, hd]
  omega

theorem Balanced.step {elapsed : Duration} {act : Act} {change : Metrics → Metrics}
    (h : Balanced deeds w) (ht : w.errands[i]? = some t)
    (htook : Errand.Took elapsed t act t' change)
    (hfound : ∀ publishing, act = .looked publishing → w.collector.enabled = publishing) :
    Balanced (deeds ++ [⟨i, t.attempt, act, w.collector, change w.collector⟩])
      { collector := change w.collector, errands := w.errands.set i t' } := by
  refine ⟨?_, ?_, added_collector h.submitted rfl, added_collector h.complete rfl,
    added_collector h.failed rfl⟩
  · have hstep := Errand.balance_of_took htook w.collector
    have hprogress := inProgress_set ht (change w.collector) t'
    have hbalance := h.balance
    dsimp only
    omega
  · exact course_set h.course ht rfl (fun hcourse => course_of_took hcourse htook rfl hfound)
      (fun k => Errand.standOf_of_took htook)

theorem Balanced.cancel {c : Connection} (h : Balanced deeds w) (ht : w.errands[i]? = some t)
    (hstand : t.stand = .awaiting c) :
    Balanced (deeds ++ [⟨i, t.attempt, .cancelled, w.collector, w.collector⟩])
      { w with errands := w.errands.set i (t.moveTo (.over .abandoned)) } := by
  refine ⟨?_, ?_, added_collector h.submitted rfl, added_collector h.complete rfl,
    added_collector h.failed rfl⟩
  · have hprogress := inProgress_set ht w.collector (t.moveTo (.over .abandoned))
    have hbalance := h.balance
    simp only [Errand.isReporting, Errand.moveTo, hstand] at hprogress
    dsimp only [Errand.moveTo] at hprogress ⊢
    omega
  · refine course_set h.course ht rfl ?_ ?_
    · intro hcourse
      rw [hstand] at hcourse
      have hover : (t.moveTo (.over .abandoned)).standOf t.attempt = .over .abandoned := by
        simp [Errand.standOf, Errand.moveTo]
      rw [hover]
      exact course_of_cancelled hcourse rfl rfl
    · intro k hk
      simp [Errand.standOf, Errand.moveTo, hk]

theorem isPublishing_some (m : Metrics) : Sink.isPublishing (some m) = m.enabled := rfl

theorem balanced_of_reached (h : Reached deeds w) : Balanced deeds w := by
  induction h with
  | start => exact balanced_start
  | enter _ request content budget ih => exact ih.enter request content budget
  | switch _ enabled ih => exact ih.switch enabled
  | @step deeds w i t t' patience elapsed e e' act m _ ht hexecutor hstep hcollector ih =>
    obtain ⟨⟨change, htook, hreporting⟩, hlooked⟩ := Errand.took_of_step? hstep
    have hreports : e'.reports = some (change w.collector) := by
      rw [hreporting.reports, hexecutor]
      rfl
    cases hcollector.symm.trans hreports
    refine ih.step ht htook ?_
    intro publishing hact
    rw [← hlooked publishing hact, hexecutor, isPublishing_some]
  | cancel _ ht hstand ih => exact ih.cancel ht hstand

/-- What the collector counts comes from reports, of which each step made one at most. -/
theorem exists_reports_of_reached (h : Reached deeds w) :
    ∃ reports : List Report, reports.length ≤ deeds.length ∧
      reports.foldl Metrics.onReport { enabled := w.collector.enabled } = w.collector := by
  induction h with
  | start => exact ⟨[], Nat.le_refl _, rfl⟩
  | enter _ _ _ _ ih => exact ih
  | @switch deeds w _ enabled ih =>
    obtain ⟨reports, hlength, hcollector⟩ := ih
    refine ⟨reports, hlength, ?_⟩
    have hswitch :=
      Metrics.foldl_onReport_enabled { enabled := w.collector.enabled } reports enabled
    rwa [hcollector] at hswitch
  | @step deeds w i t t' patience elapsed e e' act m _ ht hexecutor hstep hcollector ih =>
    obtain ⟨⟨change, htook, hreporting⟩, -⟩ := Errand.took_of_step? hstep
    obtain ⟨reports, hlength, hbefore⟩ := ih
    obtain ⟨made, hone, hchange⟩ := Errand.reports_of_took htook
    have hm : m = made.foldl Metrics.onReport w.collector := by
      have hreports := hreporting.reports
      rw [hcollector, hexecutor] at hreports
      exact (Option.some_inj.1 hreports).trans (hchange _)
    refine ⟨reports ++ made, ?_, ?_⟩
    · rw [List.length_append, List.length_append, List.length_singleton]
      omega
    · rw [List.foldl_append, hm, Metrics.enabled_foldl_onReport, hbefore]
  | @cancel deeds w _ _ _ _ _ _ ih =>
    obtain ⟨reports, hlength, hcollector⟩ := ih
    refine ⟨reports, hlength.trans ?_, hcollector⟩
    rw [List.length_append]
    exact Nat.le_add_right _ _

/-- Cells of 64 bits count what the collector counts, as long as fewer steps were taken than a cell
has values. -/
theorem holds_of_reached (h : Reached deeds w) (hroom : deeds.length < UInt64.size) :
    ∃ reports : List Report, reports.length ≤ deeds.length ∧
      (reports.foldl Cells.onReport { enabled := w.collector.enabled }).Holds w.collector := by
  obtain ⟨reports, hlength, hcollector⟩ := exists_reports_of_reached h
  refine ⟨reports, hlength, ?_⟩
  have hstart : Cells.Holds { enabled := w.collector.enabled }
      { enabled := w.collector.enabled } := ⟨rfl, rfl, rfl, rfl, rfl⟩
  have hfew : 0 + 0 + reports.length < UInt64.size := by omega
  have hholds := hstart.foldl_onReport hfew
  rwa [hcollector] at hholds

/-- The collector counts a reported write once when it begins and once when it ends, in any crowd
of executions, and nothing else. What the steps of one errand come to is the execution, and an
executor with a sink of its own leaves that of its peer alone. -/
theorem writes_balance (h : Reached deeds w) :
    Balanced deeds w ∧
    w.collector.inFlight = w.inProgress ∧
    ((∀ t ∈ w.errands, ∃ last, t.stand = .over last) → w.collector.inFlight = 0) ∧
    (∀ (patience elapsed : Duration) (e e' : Executor) (t t' : Errand) (act : Act),
      t.step? patience elapsed e = some (act, t', e') → e.sink.isSome = true →
      e'.peer.sink = e.peer.sink) ∧
    ∀ (patience : Duration) (e : Executor) (request : Descriptor) (content : Content)
      (budget : Redirect.Budget),
      (∃ t', Errand.Steps patience ({ request, content, budget }, e)
          (t', (e.execute patience request content budget).2) ∧
        t'.stand = .over (e.execute patience request content budget).1) ∧
      (e.sink.isSome = true →
        (e.execute patience request content budget).2.peer.sink = e.peer.sink) := by
  have hbalanced := balanced_of_reached h
  have hflight : w.collector.inFlight = w.inProgress := by
    rw [Metrics.inFlight, hbalanced.balance, Nat.add_sub_cancel_left]
  refine ⟨hbalanced, hflight, ?_, ?_, ?_⟩
  · intro hover
    rw [hflight]
    apply List.countP_eq_zero.2
    intro t ht
    obtain ⟨last, hstand⟩ := hover t ht
    simp [Errand.isReporting, hstand]
  · intro patience elapsed e e' t t' act hstep hown
    obtain ⟨⟨change, -, hreporting⟩, -⟩ := Errand.took_of_step? hstep
    exact hreporting.untouched hown
  · intro patience e request content budget
    exact ⟨Errand.steps_execute patience ⟨e, request, content, budget⟩ 0,
      Errand.sink_of_execute ⟨e, request, content, budget⟩⟩

/-- An exchange in which every write fails. -/
def unwritable : Exchange :=
  { conduct := .respond [], writeFailure := some (.ofCause .write .connectionClosed) }

/-- An executor with a sink of its own. -/
def owner (m : Metrics) : Executor :=
  { peer := { script := .always unwritable }, sink := some m }

/-- An executor that reports where its peer does. -/
def guest (m : Metrics) : Executor :=
  { peer := { script := .always unwritable, sink := some m } }

/-- A step in no time, with an executor that reports to the collector. -/
theorem Reached.take {e' : Executor} {act : Act} {m : Metrics} (h : Reached deeds w) (i : Nat)
    (e : Metrics → Executor) (errand : w.errands[i]? = some t)
    (executor : (e w.collector).reports = some w.collector)
    (step : t.step? .zero .zero (e w.collector) = some (act, t', e'))
    (collector : e'.reports = some m) :
    Reached (deeds ++ [⟨i, t.attempt, act, w.collector, m⟩])
      { collector := m, errands := w.errands.set i t' } :=
  h.step errand executor step collector

/-- Of two executions with one collector the first begins its write while reports are switched on.
They are switched off before the second begins its own, and then both writes fail. -/
theorem reached_switchedOff : ∃ deeds w, Reached deeds w ∧
    deeds.map (fun d => (d.errand, d.act)) =
      [(0, .acquired true), (0, .attached true), (0, .looked true), (1, .acquired true),
        (0, .begun true), (1, .attached true), (1, .looked false), (1, .begun false),
        (0, .wrote false), (1, .wrote false)] ∧
    (∀ t ∈ w.errands, ∃ last, t.stand = .over last) ∧
    w.collector = { enabled := false, submitted := 1, failed := 1 } := by
  have hentered := (Reached.start.enter {} {} .disabled).enter {} {} .disabled
  have hacquired := hentered.take 0 owner rfl rfl rfl rfl
  have hattached := hacquired.take 0 owner rfl rfl rfl rfl
  have hlooked := hattached.take 0 owner rfl rfl rfl rfl
  have hother := hlooked.take 1 guest rfl rfl rfl rfl
  have hbegun := (hother.take 0 owner rfl rfl rfl rfl).switch false
  have hattached' := hbegun.take 1 guest rfl rfl rfl rfl
  have hlooked' := hattached'.take 1 guest rfl rfl rfl rfl
  have hbegun' := hlooked'.take 1 guest rfl rfl rfl rfl
  have hfailed := hbegun'.take 0 owner rfl rfl rfl rfl
  have hfailed' := hfailed.take 1 guest rfl rfl rfl rfl
  refine ⟨_, _, hfailed', rfl, ?_, rfl⟩
  intro t ht
  rcases List.mem_cons.1 ht with rfl | ht
  · exact ⟨_, rfl⟩
  · cases List.mem_singleton.1 ht
    exact ⟨_, rfl⟩

theorem writes_balance_switchedOff : ∃ deeds w, Reached deeds w ∧
    w.collector = { enabled := false, submitted := 1, failed := 1 } ∧
    Balanced deeds w ∧ w.collector.inFlight = 0 := by
  obtain ⟨deeds, w, h, -, hover, hcollector⟩ := reached_switchedOff
  obtain ⟨hbalanced, -, hidle, -, -⟩ := writes_balance h
  exact ⟨deeds, w, h, hcollector, hbalanced, hidle hover⟩

end Crowd

end Courier
