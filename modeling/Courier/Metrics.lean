import Courier.Duration

/-!
# Write metrics

A collector counts the writes that begin and those that end, well or badly, and adds up the time
they took. It can be switched off: a write that begins then is not reported at all, while one that
has been reported as begun is also reported as ended. Times are counted up to the largest number of
64 bits, where the sum stays.
-/

namespace Courier

/-- The counts of a collector (`MetricsCollector`). -/
structure Metrics where
  enabled : Bool := true
  submitted : Nat := 0
  complete : Nat := 0
  failed : Nat := 0
  totalNanos : Nat := 0
deriving DecidableEq, Repr

namespace Metrics

/-- The largest time that is counted. -/
def maxNanos : Nat := Nat.pow 2 64 - 1

/-- Counts a write that begins (`on_request_submitted`). -/
def onSubmitted (m : Metrics) : Metrics :=
  { m with submitted := m.submitted + 1 }

/-- Adds the time of a write to the total (`record_elapsed`). -/
def addTime (m : Metrics) (elapsed : Duration) : Metrics :=
  { m with totalNanos := min (m.totalNanos + min elapsed.nanos maxNanos) maxNanos }

/-- Counts a write that ended well (`on_request_write_complete`). -/
def onComplete (m : Metrics) (elapsed : Duration) : Metrics :=
  { m with complete := m.complete + 1 }.addTime elapsed

/-- Counts a write that failed (`on_request_write_failed`). -/
def onFailed (m : Metrics) (elapsed : Duration) : Metrics :=
  { m with failed := m.failed + 1 }.addTime elapsed

/-- The writes that have ended. -/
def finished (m : Metrics) : Nat := m.complete + m.failed

/-- The mean time of a write that has ended. -/
def average (m : Metrics) : Duration :=
  ⟨m.totalNanos / m.finished⟩

/-- The writes that have begun and not ended. -/
def inFlight (m : Metrics) : Nat := m.submitted - m.finished

end Metrics

/-- Where reports go: to a collector, or nowhere. -/
abbrev Sink := Option Metrics

namespace Sink

/-- Whether reports are wanted. -/
def isPublishing : Sink → Bool
  | some m => m.enabled
  | none => false

end Sink

end Courier
