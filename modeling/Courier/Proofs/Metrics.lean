import Courier.Metrics.Cells
import Mathlib.Algebra.Order.BigOperators.Group.List
import Mathlib.Algebra.Order.Ring.Nat

/-!
# Tallies of ended writes

Whatever the order in which writes are reported as ended, the collector tells the same of them. The
times are cut off twice, each by itself and then their sum, and that comes to cutting off the sum of
all of them once. As long as the writes are fewer than a cell has values, no count starts from zero
again and nothing fails.
-/

namespace Courier

/-- The time of a write that is counted. -/
def EndedWrite.nanos (w : EndedWrite) : Nat :=
  min w.elapsed.nanos Metrics.maxNanos

/-- What is told of writes that have ended. -/
structure Snapshot.Tells (writes : List EndedWrite) (s : Snapshot) : Prop where
  complete : s.complete = writes.countP (·.succeeded)
  failed : s.failed = writes.countP (!·.succeeded)
  average : s.average =
    ⟨min (writes.map EndedWrite.nanos).sum Metrics.maxNanos / writes.length⟩
  idle : writes = [] → s.average = .zero
  bounded : writes ≠ [] → ∃ w ∈ writes, s.average.nanos ≤ w.elapsed.nanos

variable {m : Metrics} {c : Cells} {w : EndedWrite} {writes : List EndedWrite}

namespace Metrics

/-- One write raises one of the counts and adds its time. -/
theorem onEnded_eq (m : Metrics) (w : EndedWrite) : m.onEnded w =
    { m with
      complete := m.complete + w.succeeded.toNat
      failed := m.failed + (!w.succeeded).toNat
      totalNanos := min (m.totalNanos + w.nanos) maxNanos } := by
  unfold onEnded
  cases hw : w.succeeded with
  | true => simp [onComplete, addTime, EndedWrite.nanos]
  | false => simp [onFailed, addTime, EndedWrite.nanos]

/-- A sum that was cut off before can be cut off again in the end alone. -/
theorem tally_eq (m : Metrics) (writes : List EndedWrite) (hm : m.totalNanos ≤ maxNanos) :
    m.tally writes =
      { m with
        complete := m.complete + writes.countP (·.succeeded)
        failed := m.failed + writes.countP (!·.succeeded)
        totalNanos := min (m.totalNanos + (writes.map EndedWrite.nanos).sum) maxNanos } := by
  induction writes generalizing m with
  | nil => simp [tally, Nat.min_eq_left hm]
  | cons w rest ih =>
    have hrest := ih (m.onEnded w) (by rw [onEnded_eq]; exact Nat.min_le_right _ _)
    have htotal : ∀ sum, min (min (m.totalNanos + w.nanos) maxNanos + sum) maxNanos =
        min (m.totalNanos + (w.nanos + sum)) maxNanos := by
      intro sum
      omega
    change (m.onEnded w).tally rest = _
    rw [hrest, onEnded_eq]
    cases hw : w.succeeded with
    | true => simp [hw, htotal]; omega
    | false => simp [hw, htotal]; omega

theorem finished_tally (writes : List EndedWrite) (hm : m.totalNanos ≤ maxNanos) :
    (m.tally writes).finished = m.finished + writes.length := by
  have hlength := List.length_eq_countP_add_countP (·.succeeded) (l := writes)
  rw [tally_eq m writes hm]
  simp only [finished]
  simp only [Bool.not_eq_true, Bool.decide_eq_false] at hlength
  omega

/-- The mean time is at most that of some write: the sum of all times is not less than the one that
is counted. -/
theorem exists_average_le (hne : writes ≠ []) {total : Nat}
    (htotal : total ≤ (writes.map fun w => w.elapsed.nanos).sum) :
    ∃ w ∈ writes, total / writes.length ≤ w.elapsed.nanos := by
  apply List.exists_le_of_sum_le hne (fun _ => total / writes.length)
  rw [List.map_const', List.sum_replicate_nat, Nat.mul_comm]
  exact (Nat.div_mul_le_self total writes.length).trans htotal

theorem sum_nanos_le (writes : List EndedWrite) :
    (writes.map EndedWrite.nanos).sum ≤ (writes.map fun w => w.elapsed.nanos).sum := by
  apply List.sum_le_sum
  intro w _
  exact Nat.min_le_left _ _

/-- A collector that has not counted an ended write yet tells of those that are reported to it. -/
theorem tells_tally (enabled : Bool) (submitted : Nat) (writes : List EndedWrite) :
    (tally { enabled, submitted } writes).snapshot.Tells writes := by
  have hzero : (0 : Nat) ≤ maxNanos := Nat.zero_le _
  have hfinished := finished_tally (m := { enabled, submitted }) writes hzero
  have htally := tally_eq { enabled, submitted } writes hzero
  have haverage : (tally { enabled, submitted } writes).average =
      ⟨min (writes.map EndedWrite.nanos).sum maxNanos / writes.length⟩ := by
    rw [average, hfinished, htally]
    simp [finished]
  refine ⟨?_, ?_, haverage, ?_, ?_⟩
  · simp [snapshot, htally]
  · simp [snapshot, htally]
  · intro hnil
    refine haverage.trans ?_
    rw [hnil, List.length_nil, Nat.div_zero]
    rfl
  · intro hne
    simp only [snapshot, haverage]
    exact exists_average_le hne ((Nat.min_le_left _ _).trans (sum_nanos_le writes))

/-- The order of the writes does not count. -/
theorem tally_eq_of_perm {writes' : List EndedWrite} (hperm : writes'.Perm writes)
    (hm : m.totalNanos ≤ maxNanos) : m.tally writes' = m.tally writes := by
  rw [tally_eq m writes hm, tally_eq m writes' hm, hperm.countP_eq, hperm.countP_eq,
    (hperm.map EndedWrite.nanos).sum_nat]

/-- Whether reports are wanted does not count for those that are made. -/
theorem onReport_enabled (m : Metrics) (r : Report) (enabled : Bool) :
    onReport { m with enabled } r = { m.onReport r with enabled } := by
  cases r with
  | submitted => rfl
  | ended w =>
    simp only [onReport, onEnded]
    split
    · rfl
    · rfl

theorem foldl_onReport_enabled (m : Metrics) (reports : List Report) (enabled : Bool) :
    reports.foldl onReport { m with enabled } = { reports.foldl onReport m with enabled } := by
  induction reports generalizing m with
  | nil => rfl
  | cons r rest ih => rw [List.foldl_cons, onReport_enabled, ih, List.foldl_cons]

theorem enabled_foldl_onReport (m : Metrics) (reports : List Report) :
    (reports.foldl onReport m).enabled = m.enabled := by
  have hsame := congrArg enabled (foldl_onReport_enabled m reports m.enabled)
  exact hsame

end Metrics

/-! ## Cells -/

namespace Cells

/-- The cells hold what a collector counts. -/
structure Holds (c : Cells) (m : Metrics) : Prop where
  enabled : c.enabled = m.enabled
  submitted : c.submitted.toNat = m.submitted
  complete : c.complete.toNat = m.complete
  failed : c.failed.toNat = m.failed
  totalNanos : c.totalNanos.toNat = m.totalNanos

theorem toNat_ofNatClamp (n : Nat) : (UInt64.ofNatClamp n).toNat = min n Metrics.maxNanos := by
  have hmax : Metrics.maxNanos = UInt64.size - 1 := rfl
  have hpos : 0 < UInt64.size := by decide
  by_cases hn : n < UInt64.size
  · rw [UInt64.toNat_ofNatClamp_of_lt hn, hmax]
    omega
  · rw [UInt64.toNat_ofNatClamp_of_le (by omega), hmax]
    omega

theorem toNat_saturatingAdd (a b : UInt64) :
    (saturatingAdd a b).toNat = min (a.toNat + b.toNat) Metrics.maxNanos :=
  toNat_ofNatClamp _

theorem toNat_add_of_lt {a b : UInt64} (h : a.toNat + b.toNat < UInt64.size) :
    (a + b).toNat = a.toNat + b.toNat := by
  rw [UInt64.toNat_add]
  exact Nat.mod_eq_of_lt h

/-- A report leaves the cells with what the collector counts, if there is room for one more
write. -/
theorem Holds.onEnded (h : c.Holds m) (w : EndedWrite) (hroom : m.finished + 1 < UInt64.size) :
    (c.onEnded w).Holds (m.onEnded w) := by
  have hfinished : m.finished = m.complete + m.failed := rfl
  have hcomplete := h.complete
  have hfailed := h.failed
  have hone : (1 : UInt64).toNat = 1 := rfl
  have htime : (c.addTime w.elapsed).totalNanos.toNat = (m.addTime w.elapsed).totalNanos := by
    simp only [addTime, Metrics.addTime, toNat_saturatingAdd, toNat_ofNatClamp, h.totalNanos]
  unfold Cells.onEnded Metrics.onEnded
  by_cases hw : w.succeeded = true
  · have hnext : (c.complete + 1).toNat = m.complete + 1 := by
      rw [toNat_add_of_lt (by omega), hone, hcomplete]
    rw [if_pos hw, if_pos hw]
    exact ⟨h.enabled, h.submitted, hnext, hfailed, htime⟩
  · have hnext : (c.failed + 1).toNat = m.failed + 1 := by
      rw [toNat_add_of_lt (by omega), hone, hfailed]
    rw [if_neg hw, if_neg hw]
    exact ⟨h.enabled, h.submitted, hcomplete, hnext, htime⟩

theorem finished_onEnded (m : Metrics) (w : EndedWrite) :
    (m.onEnded w).finished = m.finished + 1 := by
  rw [Metrics.onEnded_eq]
  cases hw : w.succeeded with
  | true => simp [Metrics.finished]; omega
  | false => simp [Metrics.finished]; omega

/-- A report of either kind raises one count by one. -/
theorem count_onReport (m : Metrics) (r : Report) :
    (m.onReport r).submitted + (m.onReport r).finished = m.submitted + m.finished + 1 := by
  cases r with
  | submitted =>
    simp only [Metrics.onReport, Metrics.onSubmitted, Metrics.finished]
    omega
  | ended w =>
    have hsubmitted : (m.onEnded w).submitted = m.submitted := by rw [Metrics.onEnded_eq]
    rw [Metrics.onReport, finished_onEnded, hsubmitted]
    omega

theorem Holds.onReport (h : c.Holds m) (r : Report)
    (hroom : m.submitted + m.finished + 1 < UInt64.size) : (c.onReport r).Holds (m.onReport r) := by
  cases r with
  | submitted =>
    have hone : (1 : UInt64).toNat = 1 := rfl
    have hsubmitted := h.submitted
    have hnext : (c.submitted + 1).toNat = m.submitted + 1 := by
      rw [toNat_add_of_lt (by omega), hone, hsubmitted]
    exact ⟨h.enabled, hnext, h.complete, h.failed, h.totalNanos⟩
  | ended w => exact h.onEnded w (by omega)

/-- The cells hold what a collector counts after any reports, as long as these are fewer than a cell
has values. -/
theorem Holds.foldl_onReport {reports : List Report} (h : c.Holds m)
    (hroom : m.submitted + m.finished + reports.length < UInt64.size) :
    (reports.foldl Cells.onReport c).Holds (reports.foldl Metrics.onReport m) := by
  induction reports generalizing c m with
  | nil => exact h
  | cons r rest ih =>
    rw [List.length_cons] at hroom
    refine ih (h.onReport r (by omega)) ?_
    rw [count_onReport]
    omega

theorem Holds.tally (h : c.Holds m) (hroom : m.finished + writes.length < UInt64.size) :
    (c.tally writes).Holds (m.tally writes) := by
  induction writes generalizing c m with
  | nil => exact h
  | cons w rest ih =>
    rw [List.length_cons] at hroom
    have hnext := h.onEnded w (by omega)
    exact ih hnext (by rw [finished_onEnded]; omega)

/-- A mean can be worked out whether there are any times or not. -/
theorem exists_mean?_eq (total count : UInt64) :
    ∃ q, mean? total count = some q ∧ q.toNat = total.toNat / count.toNat := by
  unfold mean?
  by_cases hpos : 0 < count
  · have hne : count ≠ 0 := by
      rintro rfl
      exact absurd hpos (by decide)
    refine ⟨total / count, ?_, UInt64.toNat_div total count⟩
    rw [if_pos hpos, checkedDiv?, if_neg hne]
  · have hzero : count.toNat = 0 := by
      rw [UInt64.lt_iff_toNat_lt] at hpos
      exact Nat.eq_zero_of_not_pos hpos
    refine ⟨0, if_neg hpos, ?_⟩
    rw [hzero, Nat.div_zero]
    rfl

/-- What the collector tells can be worked out of its cells. -/
theorem Holds.snapshot? (h : c.Holds m) (hroom : m.finished < UInt64.size) :
    c.snapshot? = some m.snapshot := by
  have hfinished : c.complete.toNat + c.failed.toNat = m.finished := by
    rw [h.complete, h.failed]
    rfl
  have hfits : c.complete.toNat + c.failed.toNat < UInt64.size := by omega
  have hadd : checkedAdd? c.complete c.failed = some (c.complete + c.failed) := if_pos hfits
  obtain ⟨q, hmean, hq⟩ := exists_mean?_eq c.totalNanos (c.complete + c.failed)
  rw [toNat_add_of_lt hfits, hfinished, h.totalNanos] at hq
  simp only [Cells.snapshot?, hadd, hmean, Option.bind_eq_bind, Option.bind_some, hq, h.submitted,
    h.complete, h.failed]
  rfl

/-- **What is told of ended writes.** In whatever order fewer than 2^64 writes are reported to a
collector that has counted none yet, it tells the same of them: how many ended well and how many
failed, and the sum of their times, cut off at 2^64 - 1 nanoseconds, divided by their number. The
cells hold what is counted, and nothing fails. -/
theorem snapshot_of_ended (enabled : Bool) (submitted : UInt64) (writes : List EndedWrite)
    (hfew : writes.length < Nat.pow 2 64) :
    ∃ s : Snapshot, s.submitted = submitted.toNat ∧ s.Tells writes ∧
      ∀ writes', writes'.Perm writes →
        (tally { enabled, submitted } writes').Holds
          (Metrics.tally { enabled, submitted := submitted.toNat } writes') ∧
        (Metrics.tally { enabled, submitted := submitted.toNat } writes').snapshot = s ∧
        (tally { enabled, submitted } writes').snapshot? = some s := by
  have hstart : Holds { enabled, submitted } { enabled, submitted := submitted.toNat } :=
    ⟨rfl, rfl, rfl, rfl, rfl⟩
  generalize hm : ({ enabled, submitted := submitted.toNat } : Metrics) = m at hstart ⊢
  have hzero : m.totalNanos ≤ Metrics.maxNanos := by
    rw [← hm]
    exact Nat.zero_le _
  have hnone : m.finished = 0 := by
    rw [← hm]
    rfl
  refine ⟨(m.tally writes).snapshot, ?_, ?_, ?_⟩
  · simp only [Metrics.snapshot, Metrics.tally_eq m writes hzero]
    rw [← hm]
  · rw [← hm]
    exact Metrics.tells_tally enabled submitted.toNat writes
  · intro writes' hperm
    have hroom : m.finished + writes'.length < UInt64.size := by
      rw [hnone, hperm.length_eq, Nat.zero_add]
      exact hfew
    have hholds := hstart.tally hroom
    have hsame := congrArg Metrics.snapshot (Metrics.tally_eq_of_perm hperm hzero)
    refine ⟨hholds, hsame, ?_⟩
    rw [← hsame]
    apply hholds.snapshot?
    rw [Metrics.finished_tally _ hzero]
    exact hroom

/-- A write that took longer than can be counted, and a short one that failed. -/
theorem snapshot_of_ended_overlong :
    [EndedWrite.mk true ⟨Nat.pow 2 64 + 7⟩, ⟨false, ⟨6⟩⟩].length < Nat.pow 2 64 ∧
    ∃ s : Snapshot, s.submitted = 2 ∧ s.complete = 1 ∧ s.failed = 1 ∧
      s.average = ⟨9223372036854775807⟩ ∧
      (tally { submitted := 2 } [⟨true, ⟨Nat.pow 2 64 + 7⟩⟩, ⟨false, ⟨6⟩⟩]).snapshot? = some s ∧
      (tally { submitted := 2 } [⟨false, ⟨6⟩⟩, ⟨true, ⟨Nat.pow 2 64 + 7⟩⟩]).snapshot? = some s := by
  have hfew : [EndedWrite.mk true ⟨Nat.pow 2 64 + 7⟩, ⟨false, ⟨6⟩⟩].length < Nat.pow 2 64 := by
    decide
  obtain ⟨s, hsubmitted, htells, htold⟩ := snapshot_of_ended true 2 _ hfew
  refine ⟨hfew, s, hsubmitted, htells.complete, htells.failed, htells.average, ?_, ?_⟩
  · exact (htold _ (.refl _)).2.2
  · exact (htold _ (.swap _ _ _)).2.2

end Cells

end Courier
