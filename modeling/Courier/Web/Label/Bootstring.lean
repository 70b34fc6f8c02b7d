import Courier.Text

/-!
# The ASCII form of international labels

The characters of a label outside ASCII are written as a number each: by how much code point and
place are ahead of the character that was placed before. The digits of these numbers follow the
ASCII characters of the label after a hyphen. The smallest character comes first, and of equal ones
the one in front.
-/

namespace Courier.Web.Bootstring

/-! ## Numbers -/

/-- The value of a digit: letters first, then decimal digits. -/
def digitValue? (c : Char) : Option Nat :=
  if 'a' ≤ c && c ≤ 'z' then some (c.toNat - 'a'.toNat)
  else if c.isDigit then some (c.toNat - '0'.toNat + 26)
  else none

/-- The digit with a value below 36. -/
def digit (d : Nat) : Char :=
  if d < 26 then Char.ofNat (d + 'a'.toNat) else Char.ofNat (d - 26 + '0'.toNat)

/-- The threshold of the digit at position `k`, a multiple of 36. -/
def threshold (k bias : Nat) : Nat :=
  if k ≤ bias then 1 else if bias + 26 ≤ k then 26 else k - bias

theorem one_le_threshold (k bias : Nat) : 1 ≤ threshold k bias := by
  unfold threshold
  split
  · omega
  · split <;> omega

/-- The digits of a delta from position `k` on, the least first. The digit below its threshold is
the last one. -/
def deltaDigits (k bias delta : Nat) : Text :=
  let t := threshold k bias
  if delta < t then [digit delta]
  else digit (t + (delta - t) % (36 - t)) :: deltaDigits (k + 36) bias ((delta - t) / (36 - t))
termination_by delta
decreasing_by
  have hone := one_le_threshold k bias
  exact Nat.lt_of_le_of_lt (Nat.div_le_self _ _) (by omega)

/-- Reduces a delta that is too large and counts the reductions. -/
def reduce (delta k : Nat) : Nat × Nat :=
  if 455 < delta then reduce (delta / 35) (k + 36) else (delta, k)
termination_by delta
decreasing_by omega

/-- The bias after a code point has been placed among `count` of them. -/
def adapt (delta count : Nat) (first : Bool) : Nat :=
  let d := if first then delta / 700 else delta / 2
  let (d, k) := reduce (d + d / count) 0
  k + 36 * d / (d + 38)

/-! ## Reading -/

/-- Places the characters that the digits stand for in a label. `i` is the position counter, `n`
the next code point, `w` the weight of the next digit and `i₀` the counter before the digits of
the current delta. Counter and weight are numbers of 32 bits. -/
def place (n i i₀ w k bias : Nat) (label : Text) : Text → Option Text
  | [] => if i == i₀ && w == 1 then some label else none
  | c :: rest =>
    match digitValue? c with
    | none => none
    | some d =>
      let i := i + d * w
      let t := threshold k bias
      let count := label.length + 1
      if UInt32.size ≤ i then none
      else if d < t then
        let n := n + i / count
        let index := i % count
        if n.isValidChar then
          place n (index + 1) (index + 1) 1 36 (adapt (i - i₀) count (i₀ == 0))
            (label.insertIdx index (Char.ofNat n)) rest
        else none
      else if UInt32.size ≤ w * (36 - t) then none
      else place n i i₀ (w * (36 - t)) (k + 36) bias label rest

/-- The label that an ASCII form stands for. It has at least one character outside ASCII. -/
def decode? (t : Text) : Option Text :=
  let digits := (t.reverse.takeWhile (· != '-')).reverse
  let before := t.take (t.length - digits.length)
  if digits.isEmpty || before == ['-'] then none
  else place 128 0 0 1 36 72 before.dropLast digits

/-! ## Writing -/

/-- The greatest character of a text, where it is outside ASCII, with the last of its places. -/
def lastGreatest? : Text → Option (Nat × Char)
  | [] => none
  | c :: rest =>
    match lastGreatest? rest with
    | none => if c.toNat < 128 then none else some (0, c)
    | some (place, d) => if d < c then some (0, c) else some (place + 1, d)

theorem lt_of_lastGreatest? {t : Text} {place : Nat} {c : Char}
    (h : lastGreatest? t = some (place, c)) : place < t.length := by
  fun_induction lastGreatest? t generalizing place c with
  | case1 | case2 => cases h
  | case3 | case4 =>
    cases h
    exact Nat.zero_lt_succ _
  | case5 d rest q e hrest hle ih =>
    cases h
    exact Nat.succ_lt_succ (ih hrest)

/-- The digits of some characters, and what their reader has after them: the code point, the
position counter and the bias. -/
structure Written where
  digits : Text := []
  n : Nat := 128
  i : Nat := 0
  bias : Nat := 72

/-- Writes the characters of a text outside ASCII, the greatest one behind the others. -/
def write (t : Text) : Written :=
  match _h : lastGreatest? t with
  | none => {}
  | some (place, c) =>
    let before := write (t.eraseIdx place)
    let delta := (c.toNat - before.n) * t.length + place - before.i
    { digits := before.digits ++ deltaDigits 36 before.bias delta
      n := c.toNat
      i := place + 1
      bias := adapt delta t.length (before.i == 0) }
termination_by t.length
decreasing_by
  have hlt := lt_of_lastGreatest? _h
  rw [List.length_eraseIdx_of_lt hlt]
  omega

/-- The ASCII form of a label. -/
def encode (t : Text) : Text :=
  let base := t.filter (·.toNat < 128)
  (if base.isEmpty then [] else base ++ ['-']) ++ (write t).digits

end Courier.Web.Bootstring
