import Courier.Text

/-!
# Floating-point numbers of 64 bits

The integers among these numbers are those with at most 53 significant binary digits below
`limit`. `nearest` finds the closest one; of two equally close ones it takes the one with an even
last digit.
-/

namespace Courier.Binary64

/-- How many significant binary digits there are. -/
def precision : Nat := 53

/-- The least power of two that is too large. -/
def limit : Nat := Nat.pow 2 1024

/-- A quotient rounded to the nearest integer, a half to the even one. -/
def roundDiv (n d : Nat) : Nat :=
  let q := n / d
  let twice := 2 * (n % d)
  if twice < d then q else if d < twice then q + 1 else q + q % 2

/-- An integer rounded to the significant digits that there are. -/
def nearest (n : Nat) : Nat :=
  let unit := Nat.pow 2 (Nat.log2 n + 1 - precision)
  roundDiv n unit * unit

end Courier.Binary64
