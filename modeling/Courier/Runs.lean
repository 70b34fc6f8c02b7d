/-!
# Runs of code points

What a property says of the characters is kept as the lengths of the runs over which it stays the
same, in the order of the code points. A position counts from the start of the first run.
-/

namespace Courier.Runs

/-- Whether a position lies in a set. Each pair holds the length of a run outside of the set and
of the run inside of it that follows. -/
def holds (runs : List (Nat × Nat)) (position : Nat) : Bool :=
  match runs with
  | [] => false
  | (outside, inside) :: rest =>
    if position < outside then false
    else if position < outside + inside then true
    else holds rest (position - outside - inside)

/-- The value at a position. Each pair holds the length of a run and its value. -/
def value? {α : Type} (runs : List (Nat × α)) (position : Nat) : Option α :=
  match runs with
  | [] => none
  | (length, value) :: rest =>
    if position < length then some value else value? rest (position - length)

end Courier.Runs
