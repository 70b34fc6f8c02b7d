import Courier.Base64
import Courier.Proofs.Field

/-!
# Reading Base64

Characters are read in groups of four. Only the last group may be padded, and no bit of it that goes
into no octet may be set. Octets that were written are read back, whatever their number is.
-/

namespace Courier.Base64

variable {last : Bool} {w x y z : Nat}

/-! ## Digits -/

/-- The number of a character, which is below 64. -/
def digitValue? (c : Char) : Option Nat :=
  if 'A' ≤ c && c ≤ 'Z' then some (c.toNat - 'A'.toNat)
  else if 'a' ≤ c && c ≤ 'z' then some (c.toNat - 'a'.toNat + 26)
  else if '0' ≤ c && c ≤ '9' then some (c.toNat - '0'.toNat + 52)
  else if c == '+' then some 62
  else if c == '/' then some 63
  else none

theorem digitValue?_digit : ∀ n < 64, digitValue? (digit n) = some n := by
  decide

theorem digit_ne_pad : ∀ n < 64, (digit n == '=') = false := by
  decide

theorem isVisibleChar_digit (n : Nat) : IsVisibleChar (digit n) := by
  have hdigits : ∀ n < 63, IsVisibleChar (digit n) := by decide
  by_cases hn : n < 63
  · exact hdigits n hn
  · have hlast : digit n = '/' := by
      unfold digit
      rw [if_neg (by omega), if_neg (by omega), if_neg (by omega), if_neg (by simp; omega)]
    rw [hlast]
    decide

/-! ## Groups -/

/-- The octet of the first digit and two bits of the second one. -/
def firstOctet (w x : Nat) : UInt8 :=
  .ofNat (w * 4 + x / 16)

/-- The octet of four bits of the second digit and four bits of the third one. -/
def secondOctet (x y : Nat) : UInt8 :=
  .ofNat (x % 16 * 16 + y / 4)

/-- The octet of two bits of the third digit and the fourth one. -/
def thirdOctet (y z : Nat) : UInt8 :=
  .ofNat (y % 4 * 64 + z)

/-- The octets of a group of four characters. The last group may end with one sign of padding or
with two. -/
def decodeGroup (last : Bool) (a b c d : Char) : Option Octets := do
  let w ← digitValue? a
  let x ← digitValue? b
  if last && c == '=' && d == '=' then
    if x % 16 = 0 then some [firstOctet w x] else none
  else
    let y ← digitValue? c
    if last && d == '=' then
      if y % 4 = 0 then some [firstOctet w x, secondOctet x y] else none
    else
      let z ← digitValue? d
      some [firstOctet w x, secondOctet x y, thirdOctet y z]

theorem decodeGroup_digits (hw : w < 64) (hx : x < 64) (hy : y < 64) (hz : z < 64) :
    decodeGroup last (digit w) (digit x) (digit y) (digit z) =
      some [firstOctet w x, secondOctet x y, thirdOctet y z] := by
  simp [decodeGroup, digitValue?_digit w hw, digitValue?_digit x hx, digitValue?_digit y hy,
    digitValue?_digit z hz, digit_ne_pad y hy, digit_ne_pad z hz]

theorem decodeGroup_pad (hw : w < 64) (hx : x < 64) (hy : y < 64) (hrest : y % 4 = 0) :
    decodeGroup true (digit w) (digit x) (digit y) '=' =
      some [firstOctet w x, secondOctet x y] := by
  simp [decodeGroup, digitValue?_digit w hw, digitValue?_digit x hx, digitValue?_digit y hy,
    digit_ne_pad y hy, hrest]

theorem decodeGroup_pads (hw : w < 64) (hx : x < 64) (hrest : x % 16 = 0) :
    decodeGroup true (digit w) (digit x) '=' '=' = some [firstOctet w x] := by
  simp [decodeGroup, digitValue?_digit w hw, digitValue?_digit x hx, hrest]

theorem ofNat_eq_of_toNat {n : Nat} {b : UInt8} (h : n = b.toNat) : UInt8.ofNat n = b := by
  rw [h, UInt8.ofNat_toNat]

/-! ## Texts -/

theorem isVisibleChar_of_mem_encode {c : Char} {o : Octets} (hc : c ∈ encode o) :
    IsVisibleChar c := by
  have hpad : IsVisibleChar '=' := by decide
  fun_induction encode o with
  | case1 a b d rest n ih =>
    simp only [List.mem_cons] at hc
    rcases hc with rfl | rfl | rfl | rfl | hc
    · exact isVisibleChar_digit _
    · exact isVisibleChar_digit _
    · exact isVisibleChar_digit _
    · exact isVisibleChar_digit _
    · exact ih hc
  | case2 a b n =>
    simp only [List.mem_cons, List.not_mem_nil, or_false] at hc
    rcases hc with rfl | rfl | rfl | rfl
    · exact isVisibleChar_digit _
    · exact isVisibleChar_digit _
    · exact isVisibleChar_digit _
    · exact hpad
  | case3 a n =>
    simp only [List.mem_cons, List.not_mem_nil, or_false] at hc
    rcases hc with rfl | rfl | rfl | rfl
    · exact isVisibleChar_digit _
    · exact isVisibleChar_digit _
    · exact hpad
    · exact hpad
  | case4 => cases hc

/-- The octets that a text writes, if it writes any. -/
def decode : Text → Option Octets
  | [] => some []
  | a :: b :: c :: d :: rest => do
    let group ← decodeGroup rest.isEmpty a b c d
    let more ← decode rest
    some (group ++ more)
  | _ => none

/-- **Reading what was written.** Octets are read back from their characters. -/
theorem decode_encode (o : Octets) : decode (encode o) = some o := by
  fun_induction encode o with
  | case1 a b c rest n ih =>
    have ha := a.toNat_lt
    have hb := b.toNat_lt
    have hc := c.toNat_lt
    have hfirst : firstOctet (n / 262144) (n / 4096 % 64) = a := ofNat_eq_of_toNat (by omega)
    have hsecond : secondOctet (n / 4096 % 64) (n / 64 % 64) = b := ofNat_eq_of_toNat (by omega)
    have hthird : thirdOctet (n / 64 % 64) (n % 64) = c := ofNat_eq_of_toNat (by omega)
    rw [decode, decodeGroup_digits (by omega) (by omega) (by omega) (by omega), ih, hfirst, hsecond,
      hthird]
    rfl
  | case2 a b n =>
    have ha := a.toNat_lt
    have hb := b.toNat_lt
    have hfirst : firstOctet (n / 262144) (n / 4096 % 64) = a := ofNat_eq_of_toNat (by omega)
    have hsecond : secondOctet (n / 4096 % 64) (n / 64 % 64) = b := ofNat_eq_of_toNat (by omega)
    rw [decode, List.isEmpty_nil, decodeGroup_pad (by omega) (by omega) (by omega) (by omega),
      hfirst, hsecond]
    rfl
  | case3 a n =>
    have ha := a.toNat_lt
    have hfirst : firstOctet (n / 262144) (n / 4096 % 64) = a := ofNat_eq_of_toNat (by omega)
    rw [decode, List.isEmpty_nil, decodeGroup_pads (by omega) (by omega) (by omega), hfirst]
    rfl
  | case4 => rfl

example : decode "QQ==".toList = some [65] ∧ decode "QR==".toList = none := by decide

end Courier.Base64
