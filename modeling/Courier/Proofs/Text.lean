import Courier.Text
import Mathlib.Data.List.Induction

/-!
# Cutting texts

What the operations that cut a text give where the place of the cut is known, how long a text is
that is put together from two, and which texts are numbers.
-/

namespace Courier.Text

variable {p : Char → Bool} {a b t : Text} {sep : Char}

theorem breakAt_append (ha : ∀ c ∈ a, p c = false) (hb : ∀ c ∈ b.head?, p c = true) :
    (a ++ b).breakAt p = (a, b) := by
  unfold breakAt
  induction a with
  | nil =>
    cases b with
    | nil => rfl
    | cons c rest =>
      have hc : p c = true := hb c rfl
      simp [hc]
  | cons c rest ih =>
    have hc : p c = false := ha c (by simp)
    have hrest := ih fun d hd => ha d (List.mem_cons_of_mem c hd)
    simp only [Prod.mk.injEq] at hrest
    simp [hc, hrest.1, hrest.2]

theorem breakAt_eq_self (ht : ∀ c ∈ t, p c = false) : t.breakAt p = (t, []) := by
  simpa using breakAt_append (b := []) ht (by simp)

theorem fst_cutAt : (t.cutAt sep).1 = t.takeWhile (!· == sep) := by
  unfold cutAt
  split
  · next hbreak => exact (congrArg Prod.fst hbreak).symm
  · next hbreak => exact (congrArg Prod.fst hbreak).symm

theorem cutAt_append (ha : sep ∉ a) : (a ++ sep :: b).cutAt sep = (a, some b) := by
  have hbreak : (a ++ sep :: b).breakAt (· == sep) = (a, sep :: b) := by
    apply breakAt_append
    · intro c hc
      rw [beq_eq_false_iff_ne]
      rintro rfl
      exact ha hc
    · simp
  simp only [cutAt, hbreak]

theorem cutAt_eq_self (ht : sep ∉ t) : t.cutAt sep = (t, none) := by
  have hbreak : t.breakAt (· == sep) = (t, []) := by
    apply breakAt_eq_self
    intro c hc
    rw [beq_eq_false_iff_ne]
    rintro rfl
    exact ht hc
  simp only [cutAt, hbreak]

theorem after?_eq_some_iff {pre rest : Text} : after? pre t = some rest ↔ t = pre ++ rest := by
  unfold after?
  split
  · next hstarts =>
    obtain ⟨more, rfl⟩ := List.isPrefixOf_iff_prefix.1 hstarts
    rw [List.drop_left, Option.some_inj, List.append_cancel_left_eq]
  · next hnot =>
    refine iff_of_false nofun ?_
    rintro rfl
    exact hnot (List.isPrefixOf_iff_prefix.2 (List.prefix_append pre rest))

theorem after?_append (pre t : Text) : after? pre (pre ++ t) = some t :=
  after?_eq_some_iff.2 rfl

theorem pieces_ne_nil : t.pieces p ≠ [] := by
  cases t with
  | nil => simp [pieces]
  | cons c rest =>
    rw [pieces]
    split
    · simp
    · split
      · simp
      · simp

theorem eq_false_of_mem_pieces :
    ∀ {t piece : Text}, piece ∈ t.pieces p → ∀ c ∈ piece, p c = false := by
  intro t
  induction t with
  | nil =>
    intro piece hpiece
    simp only [pieces, List.mem_singleton] at hpiece
    simp [hpiece]
  | cons d rest ih =>
    intro piece hpiece c hc
    rw [pieces] at hpiece
    split at hpiece
    · rcases List.mem_cons.1 hpiece with rfl | hpiece
      · cases hc
      · exact ih hpiece c hc
    · next hd =>
      have hd : p d = false := by simpa using hd
      split at hpiece
      · rw [List.mem_singleton.1 hpiece, List.mem_singleton] at hc
        exact hc ▸ hd
      · next first more hrest =>
        rcases List.mem_cons.1 hpiece with rfl | hpiece
        · rcases List.mem_cons.1 hc with rfl | hc
          · exact hd
          · exact ih (hrest ▸ List.mem_cons_self) c hc
        · exact ih (hrest ▸ List.mem_cons_of_mem first hpiece) c hc

theorem mem_of_mem_pieces {piece : Text} {c : Char} (hpiece : piece ∈ t.pieces p)
    (hc : c ∈ piece) : c ∈ t := by
  induction t generalizing piece with
  | nil =>
    rw [List.mem_singleton.1 hpiece] at hc
    cases hc
  | cons d rest ih =>
    rw [pieces] at hpiece
    split at hpiece
    · rcases List.mem_cons.1 hpiece with rfl | hpiece
      · cases hc
      · exact List.mem_cons_of_mem d (ih hpiece hc)
    · split at hpiece
      · rw [List.mem_singleton.1 hpiece, List.mem_singleton] at hc
        exact hc ▸ List.mem_cons_self
      · next first more hrest =>
        rcases List.mem_cons.1 hpiece with rfl | hpiece
        · rcases List.mem_cons.1 hc with rfl | hc
          · exact List.mem_cons_self
          · exact List.mem_cons_of_mem d (ih (hrest ▸ List.mem_cons_self) hc)
        · exact List.mem_cons_of_mem d (ih (hrest ▸ List.mem_cons_of_mem first hpiece) hc)

/-- The pieces on both sides of a separator, whatever these hold. -/
theorem pieces_append (hsep : p sep = true) :
    (a ++ sep :: b).pieces p = a.pieces p ++ b.pieces p := by
  induction a with
  | nil =>
    change pieces p (sep :: b) = [] :: pieces p b
    rw [pieces, if_pos hsep]
  | cons c rest ih =>
    rw [List.cons_append, pieces, pieces, ih]
    split
    · rfl
    · cases hpieces : pieces p rest with
      | nil => exact absurd hpieces pieces_ne_nil
      | cons piece more => rfl

theorem pieces_eq_self (ha : ∀ c ∈ a, p c = false) : a.pieces p = [a] := by
  induction a with
  | nil => rfl
  | cons c rest ih =>
    have hc : ¬ p c = true := by simp [ha c List.mem_cons_self]
    rw [pieces, if_neg hc, ih fun d hd => ha d (List.mem_cons_of_mem c hd)]

/-- Texts that were joined are the pieces of the whole. -/
theorem pieces_intercalate {list : List Text} (hsep : p sep = true) (hne : list ≠ [])
    (h : ∀ t ∈ list, ∀ c ∈ t, p c = false) : pieces p ([sep].intercalate list) = list := by
  induction list with
  | nil => exact absurd rfl hne
  | cons first rest ih =>
    have hfirst := h first List.mem_cons_self
    cases rest with
    | nil => rw [List.intercalate_singleton, pieces_eq_self hfirst]
    | cons second rest =>
      rw [List.intercalate_cons_cons, List.append_assoc, List.singleton_append,
        pieces_append hsep, pieces_eq_self hfirst,
        ih (by simp) fun t ht => h t (List.mem_cons_of_mem first ht), List.singleton_append]

theorem mem_intercalate {c : Char} {list : List Text} (h : c ∈ [sep].intercalate list) :
    c = sep ∨ ∃ t ∈ list, c ∈ t := by
  induction list with
  | nil => cases h
  | cons first rest ih =>
    cases rest with
    | nil => exact .inr ⟨first, List.mem_cons_self, by simpa using h⟩
    | cons second rest =>
      rw [List.intercalate_cons_cons] at h
      rcases List.mem_append.1 h with h | h
      · rcases List.mem_append.1 h with h | h
        · exact .inr ⟨first, List.mem_cons_self, h⟩
        · exact .inl (List.mem_singleton.1 h)
      · rcases ih h with hsep | ⟨t, ht, hc⟩
        · exact .inl hsep
        · exact .inr ⟨t, List.mem_cons_of_mem first ht, hc⟩

theorem mem_intercalate_of_mem {c : Char} {list : List Text} (ht : t ∈ list) (hc : c ∈ t) :
    c ∈ [sep].intercalate list := by
  induction list with
  | nil => cases ht
  | cons first rest ih =>
    cases rest with
    | nil =>
      rw [List.mem_singleton] at ht
      rwa [List.intercalate_singleton, ← ht]
    | cons second rest =>
      rw [List.intercalate_cons_cons, List.mem_append]
      rcases List.mem_cons.1 ht with rfl | ht
      · exact .inl (List.mem_append_left _ hc)
      · exact .inr (ih ht)

/-- The pieces of a text make the text when they are joined. -/
theorem intercalate_pieces (h : ∀ c, p c = true → c = sep) (t : Text) :
    [sep].intercalate (t.pieces p) = t := by
  induction t with
  | nil => rfl
  | cons c rest ih =>
    rw [pieces]
    split
    · next hc =>
      obtain ⟨piece, more, hpieces⟩ := List.exists_cons_of_ne_nil (pieces_ne_nil (p := p) (t := rest))
      rw [hpieces] at ih ⊢
      rw [List.intercalate_cons_cons, ih, h c hc]
      rfl
    · cases hpieces : pieces p rest with
      | nil => exact absurd hpieces pieces_ne_nil
      | cons piece more =>
        rw [hpieces] at ih
        cases more with
        | nil => rw [List.intercalate_singleton, ← ih, List.intercalate_singleton]
        | cons next more =>
          rw [List.intercalate_cons_cons] at ih ⊢
          rw [← ih]
          rfl

theorem dropWhile_eq_self (ht : ∀ c ∈ t, p c = false) : t.dropWhile p = t := by
  cases t with
  | nil => rfl
  | cons c rest =>
    have hc : p c = false := ht c (by simp)
    simp [hc]

theorem trim_eq_self (ht : ∀ c ∈ t, p c = false) : t.trim p = t := by
  have hreverse : ∀ c ∈ t.reverse, p c = false := by simpa using ht
  unfold trim
  rw [dropWhile_eq_self ht, dropWhile_eq_self hreverse, List.reverse_reverse]

/-- A trim keeps a front in which nothing is to be cut off. -/
theorem trim_append (ha : ∀ c ∈ a, p c = false) : ∃ rest, (a ++ b).trim p = a ++ rest := by
  have hfront : ∃ b', (a ++ b).dropWhile p = a ++ b' := by
    cases a with
    | nil => exact ⟨b.dropWhile p, rfl⟩
    | cons c rest =>
      have hc : p c = false := ha c (by simp)
      exact ⟨b, by simp [hc]⟩
  obtain ⟨b', hb'⟩ := hfront
  have hback : (b'.reverse ++ a.reverse).dropWhile p = b'.reverse.dropWhile p ++ a.reverse := by
    rw [List.dropWhile_append]
    split
    · next hempty =>
      rw [List.isEmpty_iff.1 hempty, dropWhile_eq_self (by simpa using ha), List.nil_append]
    · rfl
  refine ⟨(b'.reverse.dropWhile p).reverse, ?_⟩
  rw [trim, hb', List.reverse_append, hback, List.reverse_append, List.reverse_reverse]

theorem octetLength_append : (a ++ b).octetLength = a.octetLength + b.octetLength := by
  have hfold : ∀ (l : Text) (n : Nat),
      l.foldl (fun n c => n + c.utf8Size) n = n + l.octetLength := by
    intro l
    induction l with
    | nil => intro n; rfl
    | cons c rest ih =>
      intro n
      unfold octetLength
      rw [List.foldl_cons, List.foldl_cons, ih, ih]
      omega
  rw [octetLength, List.foldl_append, hfold]
  rfl

/-! ## Letters -/

theorem toLower_toLower (c : Char) : c.toLower.toLower = c.toLower := by
  unfold Char.toLower
  split
  · next h =>
    rw [dif_neg]
    rintro ⟨-, hle⟩
    have hlow : 65 ≤ c.val.toNat := h.1
    have hhigh : c.val.toNat ≤ 90 := h.2
    have hle : (c.val + ('a'.val - 'A'.val)).toNat ≤ 90 := hle
    have hshift : ('a'.val - 'A'.val).toNat = 32 := rfl
    rw [UInt32.toNat_add] at hle
    omega
  · rfl

theorem lower_eq_self (h : ∀ c ∈ t, c.toLower = c) : t.lower = t := by
  unfold lower
  exact (List.map_congr_left h).trans (List.map_id t)

theorem lower_lower (t : Text) : t.lower.lower = t.lower := by
  rw [lower, lower, List.map_map]
  exact List.map_congr_left fun c _ => toLower_toLower c

/-! ## Numbers -/

/-- A text with a character that no number holds is no number. -/
theorem toNat?_eq_none {c : Char} (h : c ∈ t) (hdigit : c.isDigit = false)
    (hplus : c ≠ '+') : toNat? t = none := by
  have hnone : ∀ digits : Text, c ∈ digits →
      (if digits ≠ [] ∧ digits.all Char.isDigit then some (digits.digitsValue 10) else none)
        = none := by
    intro digits hc
    refine if_neg fun hall => ?_
    have hdigit' := List.all_eq_true.1 hall.2 c hc
    rw [hdigit] at hdigit'
    cases hdigit'
  unfold toNat?
  split
  · next rest =>
    rcases List.mem_cons.1 h with hc | hc
    · exact absurd hc hplus
    · exact hnone rest hc
  · exact hnone t h

theorem hexDigitValue_digitChar : ∀ d < 16, hexDigitValue (Nat.digitChar d) = d := by
  decide

/-- The digits of a number are read back as that number. -/
theorem digitsValue_toDigits {base : Nat} (hlow : 1 < base) (hhigh : base ≤ 16) (n : Nat) :
    digitsValue base (Nat.toDigits base n) = n := by
  induction n using Nat.strongRecOn with
  | ind n ih =>
    by_cases hn : n < base
    · have hdigit := hexDigitValue_digitChar n (by omega)
      rw [Nat.toDigits_of_lt_base hn]
      simp [digitsValue, hdigit]
    · have hn : base ≤ n := by omega
      have hmod : n % base < base := Nat.mod_lt n (by omega)
      have hdigit := hexDigitValue_digitChar (n % base) (by omega)
      rw [Nat.toDigits_of_base_le hlow hn, digitsValue, List.foldl_append, ← digitsValue,
        ih (n / base) (Nat.div_lt_self (by omega) hlow), List.foldl_cons, hdigit, List.foldl_nil,
        Nat.mul_comm]
      exact Nat.div_add_mod n base

/-- Digits write a number below the power of the base that is one for each digit. -/
theorem digitsValue_lt {base : Nat} (h : ∀ c ∈ t, hexDigitValue c < base) :
    digitsValue base t < Nat.pow base t.length := by
  induction t using List.reverseRecOn with
  | nil => exact Nat.one_pos
  | append_singleton t c ih =>
    have ht := ih fun d hd => h d (List.mem_append_left _ hd)
    have hc := h c (by simp)
    rw [digitsValue, List.foldl_append, ← digitsValue, List.foldl_cons, List.foldl_nil,
      List.length_append, List.length_singleton]
    calc digitsValue base t * base + hexDigitValue c
        < digitsValue base t * base + base := by omega
      _ = (digitsValue base t + 1) * base := by rw [Nat.succ_mul]
      _ ≤ Nat.pow base (t.length + 1) := Nat.mul_le_mul_right base ht

theorem isDigit_of_mem_ofNat {n : Nat} {c : Char} (h : c ∈ ofNat n) : c.isDigit = true :=
  Nat.isDigit_of_mem_toDigits (by omega) (by omega) h

theorem ofNat_ne_nil (n : Nat) : ofNat n ≠ [] := by
  have hlength : 0 < (Nat.toDigits 10 n).length := Nat.length_toDigits_pos
  exact List.ne_nil_of_length_pos hlength

/-- A text of digits is the number that they write. -/
theorem toNat?_of_digits (h : t ≠ []) (hdigits : ∀ c ∈ t, c.isDigit = true) :
    toNat? t = some (t.digitsValue 10) := by
  have hall : t ≠ [] ∧ t.all Char.isDigit = true := ⟨h, List.all_eq_true.2 hdigits⟩
  unfold toNat?
  split
  · exact absurd (hdigits '+' List.mem_cons_self) (by decide)
  · exact if_pos hall

theorem toNat?_ofNat (n : Nat) : toNat? (ofNat n) = some n := by
  rw [toNat?_of_digits (ofNat_ne_nil n) fun _ => isDigit_of_mem_ofNat]
  exact congrArg some (digitsValue_toDigits (by omega) (by omega) n)

end Courier.Text
