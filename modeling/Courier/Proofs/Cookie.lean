import Courier.Cookie
import Courier.Proofs.Octets
import Courier.Proofs.Text

/-!
# Cookies

The names and values that are accepted as cookies are those of the grammar of RFC 6265, whose names
are tokens of RFC 7230. What is accepted can be written, and what was written is read back by
cutting it at its first equals sign, since no token holds one.
-/

namespace Courier.Cookie

variable {name value t : Text} {c : Char} {v : FieldValue}

/-! ## The grammar -/

/-- A name: a token that is not empty. -/
def IsName (name : Text) : Prop :=
  name ≠ [] ∧ ∀ c ∈ name, isTokenChar c = true

/-- The characters of values: US-ASCII without controls, blanks, double quotes, commas, semicolons
and backslashes. -/
def IsOctet (c : Char) : Prop :=
  c.toNat = 0x21 ∨ (0x23 ≤ c.toNat ∧ c.toNat ≤ 0x2B) ∨ (0x2D ≤ c.toNat ∧ c.toNat ≤ 0x3A) ∨
    (0x3C ≤ c.toNat ∧ c.toNat ≤ 0x5B) ∨ (0x5D ≤ c.toNat ∧ c.toNat ≤ 0x7E)

instance : Decidable (IsOctet c) :=
  inferInstanceAs (Decidable (_ ∨ _))

/-- A value: such characters alone, or between two double quotes. -/
inductive IsValue : Text → Prop
  | bare {t : Text} (ht : ∀ c ∈ t, IsOctet c) : IsValue t
  | quoted {t : Text} (ht : ∀ c ∈ t, IsOctet c) : IsValue ('"' :: (t ++ ['"']))

/-! ## Characters -/

/-- Two classes of graphic characters are the same if they have the same characters below the code
at which these end. -/
theorem iff_of_forall_lt {p q : Char → Prop} (hp : ∀ c, p c → c.toNat < 127)
    (hq : ∀ c, q c → c.toNat < 127) (h : ∀ n < 127, p (Char.ofNat n) ↔ q (Char.ofNat n))
    (c : Char) : p c ↔ q c := by
  have hbelow : c.toNat < 127 → (p c ↔ q c) := by
    intro hlt
    have hsame := h c.toNat hlt
    rwa [Char.ofNat_toNat] at hsame
  exact ⟨fun hc => (hbelow (hp c hc)).1 hc, fun hc => (hbelow (hq c hc)).2 hc⟩

theorem toNat_lt_of_isGraphic (h : isGraphic c = true) : c.toNat < 127 := by
  rw [isGraphic, Bool.and_eq_true, decide_eq_true_eq, decide_eq_true_eq] at h
  exact Nat.lt_succ_of_le h.2

/-- The characters that are not excluded from names are those of tokens. -/
theorem isNameChar_iff : isNameChar c = true ↔ isTokenChar c = true := by
  refine iff_of_forall_lt (p := fun c => isNameChar c = true) (q := fun c => isTokenChar c = true)
    ?_ ?_ ?_ c
  · intro c hc
    rw [isNameChar, Bool.and_eq_true] at hc
    exact toNat_lt_of_isGraphic hc.1
  · intro c hc
    exact Nat.lt_succ_of_le (toNat_of_isVisibleChar (isVisibleChar_of_isTokenChar hc)).2
  · decide +kernel

/-- The characters that are not excluded from values are those of the grammar. -/
theorem isValueChar_iff : isValueChar c = true ↔ IsOctet c := by
  refine iff_of_forall_lt (p := fun c => isValueChar c = true) (q := IsOctet) ?_ ?_ ?_ c
  · intro c hc
    rw [isValueChar, Bool.and_eq_true] at hc
    exact toNat_lt_of_isGraphic hc.1
  · intro c hc
    unfold IsOctet at hc
    omega
  · decide +kernel

/-! ## Values -/

/-- Quotes are taken off just where there are two. -/
theorem unquote_cases (value : Text) :
    (∃ t, value = '"' :: (t ++ ['"']) ∧ unquote value = t) ∨
      (unquote value = value ∧ ∀ t, value ≠ '"' :: (t ++ ['"'])) := by
  unfold unquote
  split
  · next rest =>
    split
    · next hlast =>
      obtain ⟨t, rfl⟩ := List.getLast?_eq_some_iff.1 (beq_iff_eq.1 hlast)
      exact .inl ⟨t, rfl, List.dropLast_concat⟩
    · next hlast =>
      refine .inr ⟨rfl, ?_⟩
      rintro t ⟨⟩
      exact hlast (by simp)
  · next hfirst =>
    refine .inr ⟨rfl, ?_⟩
    rintro t rfl
    exact hfirst _ rfl

example : unquote "\"\"".toList = [] ∧ unquote "\"".toList = ['"'] := by decide

theorem not_isOctet_quote : ¬ IsOctet '"' := by
  decide

/-- A value is one of the grammar if what is left without quotes holds nothing else. -/
theorem isValue_iff : IsValue value ↔ ∀ c ∈ unquote value, IsOctet c := by
  rcases unquote_cases value with ⟨t, rfl, hunquote⟩ | ⟨hunquote, hplain⟩
  · rw [hunquote]
    constructor
    · intro h
      generalize hvalue : '"' :: (t ++ ['"']) = value at h
      cases h with
      | bare ht =>
        subst hvalue
        exact absurd (ht '"' List.mem_cons_self) not_isOctet_quote
      | quoted ht =>
        cases List.append_cancel_right (List.cons.inj hvalue).2
        exact ht
    · exact .quoted
  · rw [hunquote]
    constructor
    · rintro (ht | ht)
      · exact ht
      · exact absurd rfl (hplain _)
    · exact .bare

theorem find?_not_eq_none_iff {p : Char → Bool} :
    t.find? (!p ·) = none ↔ ∀ c ∈ t, p c = true := by
  simp

/-! ## Checks -/

/-- What is accepted is what the grammar says. -/
theorem validate_eq_ok_iff : validate name value = .ok () ↔ IsName name ∧ IsValue value := by
  have hname : name.find? (!isNameChar ·) = none ↔ ∀ c ∈ name, isTokenChar c = true := by
    simp only [find?_not_eq_none_iff, isNameChar_iff]
  have hvalue : (unquote value).find? (!isValueChar ·) = none ↔ IsValue value := by
    simp only [find?_not_eq_none_iff, isValueChar_iff, isValue_iff]
  unfold validate
  rw [IsName, ← hname, ← hvalue]
  split
  · next hempty => simp [List.isEmpty_iff.1 hempty]
  · next hne =>
    have hne : name ≠ [] := by simpa using hne
    split
    · next hfound => simp [hfound]
    · next hnone =>
      split
      · next hfound => simp [hfound]
      · next hnone' => simp [hne, hnone, hnone']

/-! ## Writing -/

theorem class_of_mem_written (hname : IsName name) (hvalue : IsValue value)
    (hc : c ∈ name ++ '=' :: value) :
    isTokenChar c = true ∨ IsOctet c ∨ c = '"' ∨ c = '=' := by
  rw [List.mem_append, List.mem_cons] at hc
  rcases hc with hc | rfl | hc
  · exact .inl (hname.2 c hc)
  · simp
  · cases hvalue with
    | bare ht => exact .inr (.inl (ht c hc))
    | quoted ht =>
      rw [List.mem_cons, List.mem_append, List.mem_singleton] at hc
      rcases hc with rfl | hc | rfl
      · simp
      · exact .inr (.inl (ht c hc))
      · simp

/-- No cookie holds a control, a blank, a comma or a semicolon. -/
theorem plain_of_mem_written (hname : IsName name) (hvalue : IsValue value)
    (hc : c ∈ name ++ '=' :: value) :
    32 < c.toNat ∧ c.toNat < 127 ∧ c.toNat ≠ 44 ∧ c.toNat ≠ 59 := by
  have hclass := class_of_mem_written hname hvalue hc
  have hlt : c.toNat < 127 := by
    rcases hclass with htoken | hoctet | rfl | rfl
    · exact Nat.lt_succ_of_le (toNat_of_isVisibleChar (isVisibleChar_of_isTokenChar htoken)).2
    · unfold IsOctet at hoctet
      omega
    all_goals decide
  have hall : ∀ n < 127, isTokenChar (Char.ofNat n) = true ∨ IsOctet (Char.ofNat n) ∨
      Char.ofNat n = '"' ∨ Char.ofNat n = '=' → 32 < n ∧ n ≠ 44 ∧ n ≠ 59 := by
    decide +kernel
  obtain ⟨hlow, hcomma, hsemicolon⟩ := hall c.toNat hlt (by rwa [Char.ofNat_toNat])
  exact ⟨hlow, hlt, hcomma, hsemicolon⟩

/-- A header value that a cookie is written as. -/
structure IsWritten (v : FieldValue) (name value : Text) : Prop where
  octets : v.octets = Octets.ofText (name ++ '=' :: value)
  cut : v.octets.cutAt 61 = (Octets.ofText name, some (Octets.ofText value))
  plain : ∀ b ∈ v.octets, 32 < b ∧ b < 127 ∧ b ≠ 44 ∧ b ≠ 59

theorem encode_of_validate (h : validate name value = .ok ()) :
    ∃ v, encode name value = .ok v ∧ IsWritten v name value := by
  obtain ⟨hname, hvalue⟩ := validate_eq_ok_iff.1 h
  have hplain := fun c => plain_of_mem_written (c := c) hname hvalue
  have hvisible : ∀ c ∈ name ++ '=' :: value, IsVisibleChar c := by
    intro c hc
    obtain ⟨hlow, hhigh, -, -⟩ := hplain c hc
    exact ⟨Nat.le_of_lt hlow, Nat.le_of_lt_succ hhigh⟩
  obtain ⟨v, hv, -⟩ := FieldValue.ofOctets?_ofText hvisible
  have hoctets : v.octets = Octets.ofText (name ++ '=' :: value) := (FieldValue.eq_of_ofOctets? hv).1
  refine ⟨v, ?_, hoctets, ?_, ?_⟩
  · unfold encode
    rw [h]
    dsimp only
    rw [hv]
  · rw [hoctets]
    refine Octets.cutAt_ofText (c := '=') (by decide) fun hequals => ?_
    exact absurd (hname.2 '=' hequals) (by decide)
  · intro b hb
    rw [hoctets, Octets.ofText_of_visible hvisible] at hb
    obtain ⟨c, hc, rfl⟩ := List.mem_map.1 hb
    obtain ⟨hlow, hhigh, hcomma, hsemicolon⟩ := hplain c hc
    have htoNat := FieldValue.toNat_octet (hvisible c hc)
    simp only [UInt8.lt_iff_toNat_lt, ne_eq, ← UInt8.toNat_inj, htoNat]
    exact ⟨hlow, hhigh, hcomma, hsemicolon⟩

/-- What is not accepted is refused with the reason, and for nothing else. -/
theorem encode_of_error {e : CookieError} (h : validate name value = .error e) :
    encode name value = .error (.ofCause .builder (.invalidCookie e.message)) := by
  unfold encode
  rw [h]

theorem isWritten_of_encode (h : encode name value = .ok v) :
    validate name value = .ok () ∧ IsWritten v name value := by
  cases hvalid : validate name value with
  | error e =>
    rw [encode_of_error hvalid] at h
    cases h
  | ok u =>
    obtain ⟨w, hw, hwritten⟩ := encode_of_validate hvalid
    cases h.symm.trans hw
    exact ⟨rfl, hwritten⟩

/-- Cookies that are written alike have the same name and the same value. -/
theorem eq_of_isWritten {name' value' : Text} {w : FieldValue} (h : IsWritten v name value)
    (h' : IsWritten w name' value') (hsame : v.octets = w.octets) :
    name = name' ∧ value = value' := by
  have hcut := h.cut.symm.trans ((congrArg (Octets.cutAt 61) hsame).trans h'.cut)
  rw [Prod.mk.injEq, Option.some.injEq] at hcut
  exact ⟨Octets.ofText_injective hcut.1, Octets.ofText_injective hcut.2⟩

/-- **Cookies.** A name and a value are accepted if they are those of the grammar. They are written
if they are accepted, and refused with the reason of the check otherwise. What was written is their
text, is cut back into the two, and ends no cookie and no header early; no two cookies are written
alike. -/
theorem encode_spec :
    (∀ name value,
      (validate name value = .ok () ↔ IsName name ∧ IsValue value) ∧
      ((∃ v, encode name value = .ok v) ↔ validate name value = .ok ()) ∧
      (∀ f, encode name value = .error f → ∃ e, validate name value = .error e ∧
        f = .ofCause .builder (.invalidCookie e.message)) ∧
      (∀ v, encode name value = .ok v → IsWritten v name value)) ∧
    ∀ name value name' value' v w, encode name value = .ok v → encode name' value' = .ok w →
      v.octets = w.octets → name = name' ∧ value = value' := by
  constructor
  · intro name value
    refine ⟨validate_eq_ok_iff, ?_, ?_, fun v h => (isWritten_of_encode h).2⟩
    · constructor
      · rintro ⟨v, h⟩
        exact (isWritten_of_encode h).1
      · intro h
        obtain ⟨v, hv, -⟩ := encode_of_validate h
        exact ⟨v, hv⟩
    · intro f h
      cases hvalid : validate name value with
      | error e =>
        rw [encode_of_error hvalid] at h
        cases h
        exact ⟨e, rfl, rfl⟩
      | ok u =>
        obtain ⟨v, hv, -⟩ := encode_of_validate hvalid
        cases h.symm.trans hv
  · intro name value name' value' v w h h' hsame
    exact eq_of_isWritten (isWritten_of_encode h).2 (isWritten_of_encode h').2 hsame

end Courier.Cookie
