import Courier.Inspect
import Courier.Text

/-!
# Durations

A span of time in whole nanoseconds.
-/

namespace Courier

/-- A span of time. -/
structure Duration where
  nanos : Nat
deriving DecidableEq, Repr

namespace Duration

def zero : Duration := ⟨0⟩

def ofMillis (n : Nat) : Duration := ⟨n * 1000000⟩

def ofSecs (secs nanos : Nat) : Duration := ⟨secs * 1000000000 + nanos⟩

/-- The whole seconds of a span. -/
def secs (d : Duration) : Nat := d.nanos / 1000000000

/-- The nanoseconds past the last whole second. -/
def subsecNanos (d : Duration) : Nat := d.nanos % 1000000000

/-- The span as a number of units of `10 ^ digits` nanoseconds, with as many decimals as it needs. -/
def inUnits (digits nanos : Nat) : Text :=
  let part := nanos % Nat.pow 10 digits
  let decimals := ((Text.ofNatPadded digits part).reverse.dropWhile (· == '0')).reverse
  Text.ofNat (nanos / Nat.pow 10 digits) ++ if part == 0 then [] else '.' :: decimals

/-- The span in the largest unit of which it has at least one. -/
def toText (d : Duration) : Text :=
  if 1000000000 ≤ d.nanos then inUnits 9 d.nanos ++ ['s']
  else if 1000000 ≤ d.nanos then inUnits 6 d.nanos ++ ['m', 's']
  else if 1000 ≤ d.nanos then inUnits 3 d.nanos ++ ['µ', 's']
  else inUnits 0 d.nanos ++ ['n', 's']

instance : Inspect Duration := ⟨fun d => String.ofList d.toText⟩

end Duration

end Courier
