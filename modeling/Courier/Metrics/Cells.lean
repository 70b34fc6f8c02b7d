import Courier.Metrics

/-!
# Collectors in cells of 64 bits

A collector is kept in cells. A count is raised by one, which starts it from zero again behind the
largest number of a cell, while times are added up to that number, where the sum stays. What a
collector tells is worked out with checks: there is nothing to tell if the ended writes are too many
for a cell, or if a mean of no writes is asked for.
-/

namespace Courier

/-- A write that has ended, and the time it took. -/
structure EndedWrite where
  succeeded : Bool
  elapsed : Duration
deriving DecidableEq, Repr

/-- What is reported to a collector. -/
inductive Report
  | submitted
  | ended (write : EndedWrite)
deriving DecidableEq, Repr

/-- What a collector tells (`WriteMetrics`). -/
structure Snapshot where
  submitted : Nat
  complete : Nat
  failed : Nat
  average : Duration
deriving DecidableEq, Repr

namespace Metrics

/-- Counts a write that has ended. -/
def onEnded (m : Metrics) (w : EndedWrite) : Metrics :=
  if w.succeeded then m.onComplete w.elapsed else m.onFailed w.elapsed

/-- Takes a report. -/
def onReport (m : Metrics) : Report → Metrics
  | .submitted => m.onSubmitted
  | .ended w => m.onEnded w

/-- Counts writes that have ended, one after the other. -/
def tally (m : Metrics) (writes : List EndedWrite) : Metrics :=
  writes.foldl onEnded m

def snapshot (m : Metrics) : Snapshot :=
  { submitted := m.submitted, complete := m.complete, failed := m.failed, average := m.average }

end Metrics

/-- The cells of a collector. -/
structure Cells where
  enabled : Bool := true
  submitted : UInt64 := 0
  complete : UInt64 := 0
  failed : UInt64 := 0
  totalNanos : UInt64 := 0
deriving DecidableEq, Repr

namespace Cells

/-- The sum, or the largest number of a cell if that is less. -/
def saturatingAdd (a b : UInt64) : UInt64 :=
  .ofNatClamp (a.toNat + b.toNat)

/-- The sum, if it fits into a cell. -/
def checkedAdd? (a b : UInt64) : Option UInt64 :=
  if a.toNat + b.toNat < UInt64.size then some (a + b) else none

/-- The quotient, if there is one. -/
def checkedDiv? (a b : UInt64) : Option UInt64 :=
  if b = 0 then none else some (a / b)

/-- Counts a write that begins. -/
def onSubmitted (c : Cells) : Cells :=
  { c with submitted := c.submitted + 1 }

/-- Adds the time of a write to the total. -/
def addTime (c : Cells) (elapsed : Duration) : Cells :=
  { c with totalNanos := saturatingAdd c.totalNanos (.ofNatClamp elapsed.nanos) }

/-- Counts a write that ended well. -/
def onComplete (c : Cells) (elapsed : Duration) : Cells :=
  { c with complete := c.complete + 1 }.addTime elapsed

/-- Counts a write that failed. -/
def onFailed (c : Cells) (elapsed : Duration) : Cells :=
  { c with failed := c.failed + 1 }.addTime elapsed

/-- Counts a write that has ended. -/
def onEnded (c : Cells) (w : EndedWrite) : Cells :=
  if w.succeeded then c.onComplete w.elapsed else c.onFailed w.elapsed

/-- Takes a report. -/
def onReport (c : Cells) : Report → Cells
  | .submitted => c.onSubmitted
  | .ended w => c.onEnded w

/-- Counts writes that have ended, one after the other. -/
def tally (c : Cells) (writes : List EndedWrite) : Cells :=
  writes.foldl onEnded c

/-- The mean of so many times. It is zero if there are none. -/
def mean? (total count : UInt64) : Option UInt64 :=
  if 0 < count then checkedDiv? total count else some 0

/-- What the collector tells, if all of it can be worked out. -/
def snapshot? (c : Cells) : Option Snapshot := do
  let finished ← checkedAdd? c.complete c.failed
  let average ← mean? c.totalNanos finished
  return {
    submitted := c.submitted.toNat
    complete := c.complete.toNat
    failed := c.failed.toNat
    average := ⟨average.toNat⟩ }

end Cells

end Courier
