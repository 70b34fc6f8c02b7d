import Courier.Proofs.Fields

/-!
# Texts as header values

A text of visible characters is a header value, and is read back from it as it was. Names and
decimal numbers are such texts.
-/

namespace Courier

/-- A character that shows in ASCII. -/
def IsVisibleChar (c : Char) : Prop :=
  ' ' ≤ c ∧ c ≤ '~'

instance {c : Char} : Decidable (IsVisibleChar c) :=
  inferInstanceAs (Decidable (' ' ≤ c ∧ c ≤ '~'))

variable {c : Char} {t : Text}

theorem toNat_of_isVisibleChar (h : IsVisibleChar c) : 32 ≤ c.toNat ∧ c.toNat ≤ 126 :=
  h

/-- The letters and digits of ASCII are visible. -/
theorem isVisibleChar_of_isAsciiAlphanum (h : isAsciiAlphanum c = true) :
    IsVisibleChar c := by
  have hrange : ∀ low high : Char, ' ' ≤ low → high ≤ '~' → low ≤ c → c ≤ high →
      IsVisibleChar c := fun low high hlow hhigh hle hge =>
    ⟨Std.le_trans hlow hle, Std.le_trans hge hhigh⟩
  rw [isAsciiAlphanum, Bool.or_eq_true] at h
  rcases h with halpha | hdigit
  · change (decide ('A' ≤ c ∧ c ≤ 'Z') || (decide ('a' ≤ c) && decide (c ≤ 'z'))) = true at halpha
    rw [Bool.or_eq_true, Bool.and_eq_true, decide_eq_true_eq, decide_eq_true_eq,
      decide_eq_true_eq] at halpha
    rcases halpha with hupper | hlower
    · exact hrange 'A' 'Z' (by decide) (by decide) hupper.1 hupper.2
    · exact hrange 'a' 'z' (by decide) (by decide) hlower.1 hlower.2
  · change (decide ('0' ≤ c) && decide (c ≤ '9')) = true at hdigit
    rw [Bool.and_eq_true, decide_eq_true_eq, decide_eq_true_eq] at hdigit
    exact hrange '0' '9' (by decide) (by decide) hdigit.1 hdigit.2

theorem isVisibleChar_of_isDigit (h : c.isDigit = true) : IsVisibleChar c := by
  apply isVisibleChar_of_isAsciiAlphanum
  rw [isAsciiAlphanum, h, Bool.or_true]

namespace Octets

theorem ofText_eq_flatMap (t : Text) : ofText t = t.flatMap String.utf8EncodeChar := by
  simp [ofText, ofString, String.toByteArray_ofList, List.utf8Encode]

/-- Visible characters are one octet each. -/
theorem ofText_of_visible (h : ∀ c ∈ t, IsVisibleChar c) :
    ofText t = t.map fun c => UInt8.ofNat c.toNat := by
  rw [ofText_eq_flatMap]
  induction t with
  | nil => rfl
  | cons c rest ih =>
    have hc : c.val.toNat ≤ 127 := by
      have hle : c.toNat ≤ 126 := (toNat_of_isVisibleChar (h c List.mem_cons_self)).2
      exact Nat.le_trans hle (by decide)
    rw [List.flatMap_cons, List.map_cons, ih fun d hd => h d (List.mem_cons_of_mem c hd)]
    simp only [String.utf8EncodeChar, hc, if_true]
    rfl

end Octets

namespace FieldValue

theorem toNat_octet (h : IsVisibleChar c) : (UInt8.ofNat c.toNat).toNat = c.toNat := by
  have hle := (toNat_of_isVisibleChar h).2
  rw [UInt8.toNat_ofNat']
  omega

/-- Visible characters are read back from their octets. -/
theorem toLatinText_ofText (h : ∀ c ∈ t, IsVisibleChar c) :
    (Octets.ofText t).toLatinText = t := by
  rw [Octets.ofText_of_visible h, Octets.toLatinText, List.map_map]
  refine (List.map_congr_left fun c hc => ?_).trans (List.map_id t)
  rw [Function.comp_apply, toNat_octet (h c hc), Char.ofNat_toNat]
  rfl

theorem isVisible_octet (h : IsVisibleChar c) : isVisible (UInt8.ofNat c.toNat) = true := by
  obtain ⟨hlow, hhigh⟩ := toNat_of_isVisibleChar h
  have hoctet := toNat_octet h
  simp only [isVisible, Bool.or_eq_true, Bool.and_eq_true, decide_eq_true_eq, UInt8.le_iff_toNat_le,
    UInt8.lt_iff_toNat_lt, hoctet]
  left
  exact ⟨hlow, Nat.lt_of_le_of_lt hhigh (by decide)⟩

theorem isFieldOctet_of_isVisible {b : UInt8} (h : isVisible b = true) : isFieldOctet b = true := by
  simp only [isVisible, isFieldOctet, Bool.or_eq_true, Bool.and_eq_true, decide_eq_true_eq,
    UInt8.le_iff_toNat_le, UInt8.lt_iff_toNat_lt, bne_iff_ne, beq_iff_eq, ne_eq] at h ⊢
  rcases h with ⟨hlow, hhigh⟩ | htab
  · refine .inl ⟨hlow, ?_⟩
    rintro rfl
    exact absurd hhigh (by decide)
  · exact .inr htab

theorem all_isVisible_ofText (h : ∀ c ∈ t, IsVisibleChar c) :
    (Octets.ofText t).all isVisible = true := by
  rw [Octets.ofText_of_visible h, List.all_map, List.all_eq_true]
  exact fun c hc => isVisible_octet (h c hc)

/-- A value that was read has the octets that it was read from, and is not flagged. -/
theorem eq_of_ofOctets? {o : Octets} {v : FieldValue} (h : ofOctets? o = some v) :
    v.octets = o ∧ v.sensitive = false := by
  unfold ofOctets? at h
  split at h
  · cases h
    exact ⟨rfl, rfl⟩
  · cases h

/-- A value with the octets of a visible text reads as that text. -/
theorem text?_of_octets {v : FieldValue} (hv : v.octets = Octets.ofText t)
    (h : ∀ c ∈ t, IsVisibleChar c) : v.text? = some t := by
  rw [text?, hv, if_pos (all_isVisible_ofText h), toLatinText_ofText h]

/-- A visible text is a header value that reads as that text. -/
theorem ofOctets?_ofText (h : ∀ c ∈ t, IsVisibleChar c) :
    ∃ v, ofOctets? (Octets.ofText t) = some v ∧ v.text? = some t := by
  have hvalue : (Octets.ofText t).all isFieldOctet = true := by
    have hvisible := all_isVisible_ofText h
    rw [List.all_eq_true] at hvisible ⊢
    exact fun b hb => isFieldOctet_of_isVisible (hvisible b hb)
  exact ⟨_, dif_pos hvalue, text?_of_octets rfl h⟩

end FieldValue

/-! ## Names -/

theorem isVisibleChar_of_isTokenChar (h : isTokenChar c = true) : IsVisibleChar c := by
  rw [isTokenChar, Bool.or_eq_true, List.contains_iff_mem] at h
  rcases h with h | h
  · exact isVisibleChar_of_isAsciiAlphanum h
  · have hall : ∀ c ∈ "!#$%&'*+-.^_\x60|~".toList, IsVisibleChar c := by
      simp [IsVisibleChar]
    exact hall c h

/-- A name is read back from its octets. -/
theorem FieldName.ofOctets?_text (n : FieldName) : ofOctets? (Octets.ofText n.text) = some n := by
  have hvisible : ∀ c ∈ n.text, IsVisibleChar c := by
    intro c hc
    have hname := n.isName
    simp only [isFieldName, Bool.and_eq_true, List.all_eq_true] at hname
    exact isVisibleChar_of_isTokenChar (hname.2 c hc).1
  have hlower : isFieldName n.text.lower = true := by
    rw [lower_text]
    exact n.isName
  rw [ofOctets?, FieldValue.toLatinText_ofText hvisible, ofText?, dif_pos hlower, Option.some.injEq,
    ← text_inj]
  exact lower_text n

/-! ## Numbers -/

namespace FieldValue

theorem digitOctet_eq : ∀ n < 10, digitOctet n = UInt8.ofNat (Nat.digitChar n).toNat := by
  decide

theorem digitOctet_mod (n : Nat) : digitOctet (n % 10) = digitOctet n := by
  rw [digitOctet, digitOctet, Nat.mod_mod]

/-- The decimal octets of a number are its decimal digits. -/
theorem decimalOctets_eq (n : Nat) (later : Octets) :
    decimalOctets n later = (Nat.toDigits 10 n).map (fun c => UInt8.ofNat c.toNat) ++ later := by
  fun_induction decimalOctets n later with
  | case1 n later hn =>
    rw [Nat.toDigits_of_lt_base hn, digitOctet_eq n hn]
    rfl
  | case2 n later hn ih =>
    rw [ih, Nat.toDigits_of_base_le (by omega) (by omega : 10 ≤ n), ← digitOctet_mod,
      digitOctet_eq _ (Nat.mod_lt n (by omega)), List.map_append, List.append_assoc]
    rfl

/-- A number is read back as its decimal digits. -/
theorem text?_ofNat (n : Nat) : (ofNat n).text? = some (Text.ofNat n) := by
  have hvisible : ∀ c ∈ Text.ofNat n, IsVisibleChar c := by
    intro c hc
    have hdigit : c.isDigit = true := Nat.isDigit_of_mem_toDigits (by omega) (by omega) hc
    exact isVisibleChar_of_isDigit hdigit
  apply text?_of_octets _ hvisible
  rw [Octets.ofText_of_visible hvisible]
  exact (decimalOctets_eq n []).trans (List.append_nil _)

end FieldValue

/-! ## Values from text -/

/-- A text that can be a header value. -/
def IsValueText (s : String) : Prop :=
  ∀ b ∈ Octets.ofString s, isFieldOctet b = true

theorem isValueText_iff {s : String} :
    IsValueText s ↔ (Octets.ofString s).all isFieldOctet = true :=
  List.all_eq_true.symm

theorem Octets.ofString_append (s t : String) : ofString (s ++ t) = ofString s ++ ofString t := by
  simp [ofString]

theorem isValueText_append {s t : String} (hs : IsValueText s) :
    IsValueText (s ++ t) ↔ IsValueText t := by
  unfold IsValueText
  rw [Octets.ofString_append, List.forall_mem_append]
  exact and_iff_right hs

theorem FieldValue.ofString?_eq_none_iff {s : String} :
    FieldValue.ofString? s = none ↔ ¬ IsValueText s := by
  rw [isValueText_iff, ofString?, ofOctets?]
  split
  · next h => simp [h]
  · next h => simp [h]

end Courier
