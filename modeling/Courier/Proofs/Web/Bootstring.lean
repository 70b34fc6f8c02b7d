import Courier.Proofs.Text
import Courier.Web.Label.Bootstring
import Mathlib.Algebra.Order.Group.Nat
import Mathlib.Data.List.InsertIdx

/-!
# Reading back the ASCII form of a label

The characters of a label are written from the smallest to the greatest, so the label with the last
of them taken out is read first, and its digits are followed by those of one more number. That number
takes the reader from the character before to the place of the last one. The reader counts with 32
bits, and for a label that is not too long it never needs more.
-/

namespace Courier.Web.Bootstring

variable {t : Text} {c d : Char} {place place' : Nat}

/-! ## Numbers -/

theorem threshold_le (k bias : Nat) : threshold k bias ≤ 26 := by
  unfold threshold
  split
  · omega
  · split <;> omega

theorem digitValue?_digit : ∀ d < 36, digitValue? (digit d) = some d := by
  decide

/-- A digit is neither a capital letter nor a hyphen. -/
theorem digit_plain : ∀ d < 36, (digit d).toNat < 128 ∧ (digit d).isUpper = false ∧
    digit d ≠ '-' ∧ digit d ≠ '.' := by
  decide

theorem mem_deltaDigits {k bias delta : Nat} (h : c ∈ deltaDigits k bias delta) :
    ∃ d < 36, c = digit d := by
  fun_induction deltaDigits k bias delta with
  | case1 k delta t hlt =>
    have hle : t ≤ 26 := threshold_le k bias
    exact ⟨delta, by omega, List.mem_singleton.1 h⟩
  | case2 k delta t hge ih =>
    have hle : t ≤ 26 := threshold_le k bias
    rcases List.mem_cons.1 h with rfl | h
    · have hmod : (delta - t) % (36 - t) < 36 - t := Nat.mod_lt _ (by omega)
      exact ⟨_, by omega, rfl⟩
    · exact ih h

theorem deltaDigits_ne_nil (k bias delta : Nat) : deltaDigits k bias delta ≠ [] := by
  unfold deltaDigits
  dsimp only
  split
  · exact List.cons_ne_nil _ _
  · exact List.cons_ne_nil _ _

/-! ## Biases -/

/-- A bias that is as large as it can become. -/
def maxBias : Nat := 215

/-- Of a delta below the power of the reductions, no more than these are made. -/
theorem reduce_le {delta k : Nat} (count : Nat) (h : delta < 456 * 35 ^ count) :
    (reduce delta k).1 ≤ 455 ∧ (reduce delta k).2 ≤ k + 36 * count := by
  induction count generalizing delta k with
  | zero =>
    have hsmall : ¬ 455 < delta := by omega
    rw [reduce, if_neg hsmall]
    exact ⟨by omega, Nat.le_refl _⟩
  | succ count ih =>
    rw [reduce]
    split
    · have hless : delta / 35 < 456 * 35 ^ count := by
        rw [Nat.div_lt_iff_lt_mul (by omega)]
        rw [Nat.pow_succ] at h
        omega
      obtain ⟨hdelta, hk⟩ := ih (k := k + 36) hless
      exact ⟨hdelta, by omega⟩
    · exact ⟨by dsimp only; omega, by dsimp only; omega⟩

theorem adapt_le {delta count : Nat} {first : Bool} (h : delta < 2 ^ 31) :
    adapt delta count first ≤ maxBias := by
  unfold adapt
  dsimp only
  generalize hhalf : (if first = true then delta / 700 else delta / 2) = half
  have hle : half ≤ delta / 2 := by
    rw [← hhalf]
    split
    · omega
    · exact Nat.le_refl _
  have hcount : half / count ≤ half := Nat.div_le_self _ _
  have hpower : half + half / count < 456 * 35 ^ 5 := by omega
  obtain ⟨hlow, hk⟩ := reduce_le (k := 0) 5 hpower
  generalize reduce (half + half / count) 0 = reduced at hlow hk ⊢
  have hshare : 36 * reduced.1 / (reduced.1 + 38) < 36 := by
    rw [Nat.div_lt_iff_lt_mul (by omega)]
    omega
  unfold maxBias
  omega

/-! ## Reading a number -/

section Numbers

variable {n i i₀ w k bias position : Nat} {label : Text}

/-- The weight after a digit with a threshold: it is small where the threshold is, and else the number
itself is larger. -/
theorem weight_lt {delta : Nat} (hk : k = 36 * (position + 1)) (hw : w ≤ 35 ^ position)
    (hbias : bias ≤ maxBias) (hdelta : threshold k bias ≤ delta)
    (hsmall : delta * w < UInt32.size) : w * (36 - threshold k bias) < UInt32.size := by
  have hone := one_le_threshold k bias
  by_cases hhigh : 18 ≤ threshold k bias
  · calc w * (36 - threshold k bias) ≤ w * delta := Nat.mul_le_mul_left w (by omega)
      _ = delta * w := Nat.mul_comm w delta
      _ < UInt32.size := hsmall
  · have hposition : position ≤ 5 := by
      unfold maxBias at hbias
      unfold threshold at hhigh
      split at hhigh
      · omega
      · split at hhigh <;> omega
    calc w * (36 - threshold k bias) ≤ 35 ^ position * 35 := Nat.mul_le_mul hw (by omega)
      _ ≤ 35 ^ 5 * 35 := Nat.mul_le_mul_right 35 (Nat.pow_le_pow_right (by omega) hposition)
      _ < UInt32.size := by decide

/-- A digit that is not the last one of its number moves the counter, and the next digit weighs
more. -/
theorem place_digit {value : Nat} (i₀ : Nat) (label more : Text) (hdigit : value < 36)
    (hmore : threshold k bias ≤ value) (hcounter : i + value * w < UInt32.size)
    (hweight : w * (36 - threshold k bias) < UInt32.size) :
    Bootstring.place n i i₀ w k bias label (digit value :: more) =
      Bootstring.place n (i + value * w) i₀ (w * (36 - threshold k bias)) (k + 36) bias label
        more := by
  rw [Bootstring.place, digitValue?_digit value hdigit]
  simp only [if_neg (Nat.not_le.2 hcounter), if_neg (Nat.not_lt.2 hmore),
    if_neg (Nat.not_le.2 hweight)]

/-- After the last digit of a number a character is placed where the counter stands. -/
theorem place_lastDigit {value : Nat} (i₀ : Nat) (label more : Text)
    (hlast : value < threshold k bias) (hcounter : i + value * w < UInt32.size)
    (hvalid : (n + (i + value * w) / (label.length + 1)).isValidChar) :
    Bootstring.place n i i₀ w k bias label (digit value :: more) =
      Bootstring.place (n + (i + value * w) / (label.length + 1))
        ((i + value * w) % (label.length + 1) + 1) ((i + value * w) % (label.length + 1) + 1) 1 36
        (adapt (i + value * w - i₀) (label.length + 1) (i₀ == 0))
        (label.insertIdx ((i + value * w) % (label.length + 1))
          (Char.ofNat (n + (i + value * w) / (label.length + 1)))) more := by
  have hle := threshold_le k bias
  rw [Bootstring.place, digitValue?_digit value (by omega)]
  simp only [if_neg (Nat.not_le.2 hcounter), hlast, if_true, hvalid]

/-- The digits of a number move the counter by that number, and a character is placed there. -/
theorem place_deltaDigits (i₀ delta : Nat) (label more : Text) (hk : k = 36 * (position + 1))
    (hw : w ≤ 35 ^ position) (hbias : bias ≤ maxBias) (hsmall : i + delta * w < UInt32.size)
    (hvalid : (n + (i + delta * w) / (label.length + 1)).isValidChar) :
    Bootstring.place n i i₀ w k bias label (deltaDigits k bias delta ++ more) =
      Bootstring.place (n + (i + delta * w) / (label.length + 1))
        ((i + delta * w) % (label.length + 1) + 1) ((i + delta * w) % (label.length + 1) + 1) 1 36
        (adapt (i + delta * w - i₀) (label.length + 1) (i₀ == 0))
        (label.insertIdx ((i + delta * w) % (label.length + 1))
          (Char.ofNat (n + (i + delta * w) / (label.length + 1)))) more := by
  induction delta using Nat.strongRecOn generalizing i w k position with
  | ind delta ih =>
    have hone := one_le_threshold k bias
    have hle := threshold_le k bias
    rw [deltaDigits]
    split
    · next hlast => exact place_lastDigit i₀ label more hlast hsmall hvalid
    · next hmore =>
      have hlow : (delta - threshold k bias) % (36 - threshold k bias) < 36 - threshold k bias :=
        Nat.mod_lt _ (by omega)
      have hsplit := Nat.mod_add_div' (delta - threshold k bias) (36 - threshold k bias)
      generalize (delta - threshold k bias) % (36 - threshold k bias) = low at hlow hsplit ⊢
      have hhigh : (delta - threshold k bias) / (36 - threshold k bias) < delta :=
        Nat.lt_of_le_of_lt (Nat.div_le_self _ _) (by omega)
      generalize (delta - threshold k bias) / (36 - threshold k bias) = high at hsplit hhigh ⊢
      -- digit and rest, each with its weight, are the number
      have hdelta : delta = threshold k bias + low + high * (36 - threshold k bias) := by omega
      have hsum : i + (threshold k bias + low) * w + high * (w * (36 - threshold k bias)) =
          i + delta * w := by
        rw [hdelta, Nat.add_mul (threshold k bias + low), Nat.mul_comm w, ← Nat.mul_assoc,
          Nat.add_assoc]
      have hweight : w * (36 - threshold k bias) < UInt32.size :=
        weight_lt hk hw hbias (by omega : _ ≤ delta) (by omega)
      have hgrown : w * (36 - threshold k bias) ≤ 35 ^ (position + 1) := by
        rw [Nat.pow_succ]
        exact Nat.mul_le_mul hw (by omega)
      have hnext : k + 36 = 36 * (position + 1 + 1) := by omega
      have hstep := ih high hhigh (i := i + (threshold k bias + low) * w) hnext hgrown
        (by rwa [hsum]) (by rwa [hsum])
      rw [hsum] at hstep
      rw [List.cons_append, place_digit i₀ label _ (by omega) (Nat.le_add_right _ _) (by omega)
        hweight]
      exact hstep

end Numbers

/-! ## The order of writing -/

theorem getElem?_of_lastGreatest? (h : lastGreatest? t = some (place, c)) : t[place]? = some c := by
  fun_induction lastGreatest? t generalizing place c with
  | case1 | case2 => cases h
  | case3 | case4 =>
    cases h
    rfl
  | case5 e rest q d hrest hle ih =>
    cases h
    exact ih hrest

/-- The greatest character is outside ASCII. -/
theorem le_of_lastGreatest? (h : lastGreatest? t = some (place, c)) : 128 ≤ c.toNat := by
  fun_induction lastGreatest? t generalizing place c with
  | case1 | case2 => cases h
  | case3 e rest hrest hwide =>
    cases h
    omega
  | case4 e rest q d hrest hlt ih =>
    cases h
    exact Nat.le_trans (ih hrest) (Nat.le_of_lt hlt)
  | case5 e rest q d hrest hle ih =>
    cases h
    exact ih hrest

theorem lastGreatest?_eq_none_iff : lastGreatest? t = none ↔ ∀ c ∈ t, c.toNat < 128 := by
  fun_induction lastGreatest? t with
  | case1 => simp
  | case2 c rest hrest hascii ih => simpa [hascii] using ih.1 hrest
  | case3 c rest hrest hwide ih => simp [hwide]
  | case4 c rest q d hrest hlt ih =>
    rw [iff_false_left (by simp)]
    intro hall
    rw [ih.2 fun e he => hall e (List.mem_cons_of_mem c he)] at hrest
    cases hrest
  | case5 c rest q d hrest hle ih =>
    rw [iff_false_left (by simp)]
    intro hall
    rw [ih.2 fun e he => hall e (List.mem_cons_of_mem c he)] at hrest
    cases hrest

/-- Before a character only smaller ones are written, and equal ones that stand in front of it. -/
theorem lastGreatest?_eraseIdx (h : lastGreatest? t = some (place, c))
    (h' : lastGreatest? (t.eraseIdx place) = some (place', d)) :
    d < c ∨ d = c ∧ place' < place := by
  fun_induction lastGreatest? t generalizing place c place' d with
  | case1 | case2 => cases h
  | case3 e rest hrest =>
    cases h
    rw [List.eraseIdx_cons_zero, hrest] at h'
    cases h'
  | case4 e rest q f hrest hlt =>
    cases h
    rw [List.eraseIdx_cons_zero, hrest] at h'
    cases h'
    exact .inl hlt
  | case5 e rest q f hrest hle ih =>
    cases h
    have hhead : e < f ∨ e = f := by
      by_cases heq : e = f
      · exact .inr heq
      · exact .inl (Std.lt_of_le_of_ne (Std.not_lt.1 hle) heq)
    rw [List.eraseIdx_cons_succ, lastGreatest?] at h'
    split at h'
    · split at h'
      · cases h'
      · cases h'
        exact hhead.imp_right fun heq => ⟨heq, Nat.zero_lt_succ _⟩
    · next q' f' hbefore =>
      split at h'
      · cases h'
        exact hhead.imp_right fun heq => ⟨heq, Nat.zero_lt_succ _⟩
      · cases h'
        exact (ih hrest hbefore).imp_right fun hboth => ⟨hboth.1, Nat.succ_lt_succ hboth.2⟩

theorem filter_eraseIdx_of_lastGreatest? (h : lastGreatest? t = some (place, c)) :
    (t.eraseIdx place).filter (·.toNat < 128) = t.filter (·.toNat < 128) := by
  have hwide : ¬ c.toNat < 128 := Nat.not_lt.2 (le_of_lastGreatest? h)
  obtain ⟨hplace, hc⟩ := List.getElem?_eq_some_iff.1 (getElem?_of_lastGreatest? h)
  rw [List.eraseIdx_eq_take_drop_succ, List.filter_append]
  conv_rhs => rw [← List.take_append_drop place t, List.drop_eq_getElem_cons hplace, hc]
  rw [List.filter_append, List.filter_cons_of_neg (by simpa using hwide)]

/-- The character that is written last is put back where it was taken out. -/
theorem insertIdx_eraseIdx (h : lastGreatest? t = some (place, c)) :
    (t.eraseIdx place).insertIdx place c = t := by
  obtain ⟨hplace, rfl⟩ := List.getElem?_eq_some_iff.1 (getElem?_of_lastGreatest? h)
  exact List.insertIdx_eraseIdx_getElem hplace

/-! ## What is written -/

/-- What the reader has after the characters of a text. -/
theorem write_of_eq_some (h : lastGreatest? t = some (place, c)) :
    (write t).n = c.toNat ∧ (write t).i = place + 1 := by
  rw [write]
  split
  · next hnone =>
    rw [h] at hnone
    cases hnone
  · next place' c' hsome =>
    cases h.symm.trans hsome
    exact ⟨rfl, rfl⟩

theorem write_of_eq_none (h : lastGreatest? t = none) : write t = {} := by
  rw [write]
  split
  · rfl
  · next hsome =>
    rw [h] at hsome
    cases hsome

theorem toNat_lt (c : Char) : c.toNat < 0x110000 := by
  rcases c.valid with h | ⟨-, h⟩
  · exact Nat.lt_trans h (by decide)
  · exact h

/-- The number of the last character takes the reader there from the character before. -/
theorem write_reaches (h : lastGreatest? t = some (place, c)) :
    (write (t.eraseIdx place)).n ≤ c.toNat ∧
      (write (t.eraseIdx place)).i ≤ (c.toNat - (write (t.eraseIdx place)).n) * t.length + place := by
  have hlength := List.length_eraseIdx_of_lt (lt_of_lastGreatest? h)
  cases h' : lastGreatest? (t.eraseIdx place) with
  | none =>
    rw [write_of_eq_none h']
    exact ⟨le_of_lastGreatest? h, Nat.zero_le _⟩
  | some before =>
    obtain ⟨place', d⟩ := before
    obtain ⟨hn, hi⟩ := write_of_eq_some h'
    rw [hn, hi]
    have hplace' := lt_of_lastGreatest? h'
    rcases lastGreatest?_eraseIdx h h' with hlt | ⟨rfl, hplace⟩
    · have hless : d.toNat < c.toNat := hlt
      have hrow : 1 * t.length ≤ (c.toNat - d.toNat) * t.length :=
        Nat.mul_le_mul_right _ (by omega)
      omega
    · omega

/-- What the bias and the digits are after the last character. -/
theorem write_eq_of_eq_some (h : lastGreatest? t = some (place, c)) :
    ∃ delta, (write (t.eraseIdx place)).i + delta =
        (c.toNat - (write (t.eraseIdx place)).n) * t.length + place ∧
      (write t).digits = (write (t.eraseIdx place)).digits ++
        deltaDigits 36 (write (t.eraseIdx place)).bias delta ∧
      (write t).bias = adapt delta t.length ((write (t.eraseIdx place)).i == 0) := by
  refine ⟨_, Nat.add_sub_of_le (write_reaches h).2, ?_⟩
  rw [write]
  split
  · next hnone =>
    rw [h] at hnone
    cases hnone
  · next place' c' hsome =>
    cases h.symm.trans hsome
    exact ⟨rfl, rfl⟩

/-- The rows of code points up to a character, each with a place for every character of the text. -/
theorem rows_le (first : Nat) (hlength : t.length ≤ 1000) :
    (c.toNat - first) * t.length ≤ 0x110000 * 1000 :=
  Nat.mul_le_mul (Nat.le_trans (Nat.sub_le _ _) (Nat.le_of_lt (toNat_lt c))) hlength

theorem write_bias_le (hlength : t.length ≤ 1000) : (write t).bias ≤ maxBias := by
  cases h : lastGreatest? t with
  | none =>
    rw [write_of_eq_none h]
    decide
  | some last =>
    obtain ⟨place, c⟩ := last
    obtain ⟨delta, hdelta, -, hbias⟩ := write_eq_of_eq_some h
    have hplace := lt_of_lastGreatest? h
    have hrows := rows_le (c := c) (write (t.eraseIdx place)).n hlength
    rw [hbias]
    exact adapt_le (by omega)

theorem mem_write (h : c ∈ (write t).digits) : ∃ d < 36, c = digit d := by
  fun_induction write t with
  | case1 => cases h
  | case2 t place e hlast before delta ih =>
    rcases List.mem_append.1 h with h | h
    · exact ih h
    · exact mem_deltaDigits h

theorem write_ne_nil (h : lastGreatest? t = some (place, c)) : (write t).digits ≠ [] := by
  obtain ⟨delta, -, hdigits, -⟩ := write_eq_of_eq_some h
  rw [hdigits]
  exact List.append_ne_nil_of_right_ne_nil _ (deltaDigits_ne_nil _ _ _)

/-! ## Reading what was written -/

/-- The reader places the characters of a text between its characters of ASCII. -/
theorem place_write (hlength : t.length ≤ 1000) (more : Text) :
    Bootstring.place 128 0 0 1 36 72 (t.filter (·.toNat < 128)) ((write t).digits ++ more) =
      Bootstring.place (write t).n (write t).i (write t).i 1 36 (write t).bias t more := by
  induction hn : t.length using Nat.strongRecOn generalizing t more with
  | ind count ih =>
    cases h : lastGreatest? t with
    | none =>
      have hascii : t.filter (·.toNat < 128) = t :=
        List.filter_eq_self.2 fun c hc => by
          simpa using lastGreatest?_eq_none_iff.1 h c hc
      rw [write_of_eq_none h, hascii]
      rfl
    | some last =>
      obtain ⟨place, c⟩ := last
      have hplace := lt_of_lastGreatest? h
      have herase := List.length_eraseIdx_of_lt hplace
      have hcount : (t.eraseIdx place).length + 1 = t.length := by omega
      obtain ⟨delta, hdelta, hdigits, hbias⟩ := write_eq_of_eq_some h
      obtain ⟨hc, hi⟩ := write_of_eq_some h
      obtain ⟨hreach, -⟩ := write_reaches h
      have hbefore := write_bias_le (t := t.eraseIdx place) (by omega)
      have hread := ih (t.eraseIdx place).length (by omega) (by omega)
        (deltaDigits 36 (write (t.eraseIdx place)).bias delta ++ more) rfl
      rw [filter_eraseIdx_of_lastGreatest? h] at hread
      generalize write (t.eraseIdx place) = before at *
      have hrows := rows_le (c := c) before.n hlength
      -- the counter is the number of the row times its length, and the place in the row
      have hrow : ((c.toNat - before.n) * t.length + place) / t.length = c.toNat - before.n := by
        rw [Nat.mul_comm, Nat.mul_add_div (by omega), Nat.div_eq_of_lt hplace, Nat.add_zero]
      have hcolumn : ((c.toNat - before.n) * t.length + place) % t.length = place := by
        rw [Nat.mul_add_mod_self_right, Nat.mod_eq_of_lt hplace]
      have hnext : before.n + (c.toNat - before.n) = c.toNat := by omega
      have hfirst : 36 = 36 * (0 + 1) := rfl
      have hsmall : before.i + delta * 1 < UInt32.size := by
        unfold UInt32.size
        omega
      have hstep := place_deltaDigits (n := before.n) (i := before.i) (w := 1) before.i delta
        (t.eraseIdx place) more hfirst (by omega) hbefore hsmall
      rw [hcount, Nat.mul_one, hdelta, hrow, hcolumn, hnext, Char.ofNat_toNat,
        insertIdx_eraseIdx h, ← hdelta, Nat.add_sub_cancel_left, ← hbias] at hstep
      rw [hdigits, List.append_assoc, hread, hc, hi]
      exact hstep c.valid

/-- What stands before the digits: the characters of ASCII and a hyphen, if there are any. -/
def front (t : Text) : Text :=
  if (t.filter (·.toNat < 128)).isEmpty then [] else t.filter (·.toNat < 128) ++ ['-']

theorem encode_eq (t : Text) : encode t = front t ++ (write t).digits := rfl

/-- The digits begin behind the last hyphen. -/
theorem digits_encode (t : Text) :
    ((encode t).reverse.takeWhile (· != '-')).reverse = (write t).digits := by
  have hdigits : ∀ c ∈ (write t).digits.reverse, (c != '-') = true := by
    intro c hc
    obtain ⟨d, hd, rfl⟩ := mem_write (List.mem_reverse.1 hc)
    exact bne_iff_ne.2 (digit_plain d hd).2.2.1
  have hfront : (front t).reverse.takeWhile (· != '-') = [] := by
    unfold front
    split
    · rfl
    · rw [List.reverse_append]
      rfl
  rw [encode_eq, List.reverse_append, List.takeWhile_append_of_pos hdigits, hfront, List.append_nil,
    List.reverse_reverse]

theorem take_encode (t : Text) :
    (encode t).take ((encode t).length - (write t).digits.length) = front t := by
  rw [encode_eq, List.length_append, Nat.add_sub_cancel, List.take_left]

/-- A hyphen in front of the digits has characters of ASCII before it. -/
theorem front_plain (t : Text) :
    (front t == ['-']) = false ∧ (front t).dropLast = t.filter (·.toNat < 128) := by
  unfold front
  split
  · next hempty => exact ⟨rfl, (List.isEmpty_iff.1 hempty).symm⟩
  · next hsome =>
    refine ⟨?_, List.dropLast_concat⟩
    rw [beq_eq_false_iff_ne]
    intro hlone
    exact hsome (List.isEmpty_iff.2 (List.append_left_eq_self.1 hlone))

/-- **Reading what was written.** A label with a character outside ASCII is read back from its ASCII
form. -/
theorem decode?_encode (hlength : t.length ≤ 1000) (hwide : ∃ c ∈ t, 128 ≤ c.toNat) :
    decode? (encode t) = some t := by
  have hsome : ∃ last, lastGreatest? t = some last := by
    rw [← Option.ne_none_iff_exists']
    intro hnone
    obtain ⟨c, hc, hle⟩ := hwide
    exact absurd (lastGreatest?_eq_none_iff.1 hnone c hc) (Nat.not_lt.2 hle)
  obtain ⟨⟨place, c⟩, hlast⟩ := hsome
  have hempty : (write t).digits.isEmpty = false := by simpa using write_ne_nil hlast
  have hread := place_write hlength []
  rw [List.append_nil] at hread
  unfold decode?
  dsimp only
  rw [digits_encode, take_encode, hempty, (front_plain t).1, (front_plain t).2, hread]
  simp [Bootstring.place]

end Courier.Web.Bootstring
