import Courier.Form
import Courier.Proofs.Octets
import Courier.Proofs.Web.Host
import Courier.Proofs.Web.Paths

/-!
# Reading forms

A form is read by cutting it into pieces, and each piece into a name and a value at its first equals
sign. Reading takes back what writing does, whatever the names and values hold, since no octet is
written with a character that cuts a form. Pairs that are put behind a form are read behind those
that it has.
-/

namespace Courier.Form

open Web (percentDecode escapeOctet upperHexDigit isQueryEscaped)

variable {form : Text} {pairs : List (String × String)} {pair : String × String} {s : String}
  {c : Char}

/-! ## Reading -/

/-- A plus sign stands for a blank. -/
def blankOfPlus (c : Char) : Char :=
  if c == '+' then ' ' else c

/-- The octets that a name or value stands for. -/
def decodeOctets (t : Text) : Octets :=
  percentDecode (t.map blankOfPlus)

/-- The text that a name or value stands for. -/
def decodeText (t : Text) : String :=
  String.ofList (Octets.readText (decodeOctets t))

/-- The pair that a piece of a form stands for. A piece without an equals sign is a name with an
empty value. -/
def decodePair (piece : Text) : String × String :=
  let (name, value) := Text.cutAt '=' piece
  (decodeText name, decodeText (value.getD []))

/-- The pairs of a form. Empty pieces do not count. -/
def decode (form : Text) : List (String × String) :=
  ((form.pieces (· == '&')).filter (!·.isEmpty)).map decodePair

/-! ## Octets -/

theorem percentDecode_cons {rest : Text} (hc : c ≠ '%') :
    percentDecode (c :: rest) = Octets.ofText [c] ++ percentDecode rest := by
  rw [percentDecode]
  rintro x y more rfl
  exact absurd rfl hc

theorem hexDigitValue_upperHexDigit : ∀ n < 16, hexDigitValue (upperHexDigit n) = n := by
  decide

theorem percentDecode_escapeOctet (b : UInt8) (rest : Text) :
    percentDecode (escapeOctet b ++ rest) = b :: percentDecode rest := by
  have hb := b.toNat_lt
  have hhigh : b.toNat / 16 < 16 := by omega
  have hlow : b.toNat % 16 < 16 := by omega
  have hdigits : (isHexDigit (upperHexDigit (b.toNat / 16)) &&
      isHexDigit (upperHexDigit (b.toNat % 16))) = true := by
    rw [Web.isHexDigit_upperHexDigit _ hhigh, Web.isHexDigit_upperHexDigit _ hlow]
    rfl
  have hvalue : b.toNat / 16 * 16 + b.toNat % 16 = b.toNat := by omega
  change percentDecode ('%' :: upperHexDigit (b.toNat / 16) :: upperHexDigit (b.toNat % 16) :: rest)
    = _
  rw [percentDecode, if_pos hdigits, hexDigitValue_upperHexDigit _ hhigh,
    hexDigitValue_upperHexDigit _ hlow, hvalue, UInt8.ofNat_toNat]

theorem isVisibleChar_of_isPlain (h : isPlain c = true) : IsVisibleChar c := by
  simp only [isPlain, Bool.or_eq_true, beq_iff_eq] at h
  rcases h with (((h | rfl) | rfl) | rfl) | rfl
  · exact isVisibleChar_of_isAsciiAlphanum h
  all_goals decide

/-- An octet is read as it was written, whatever follows it. -/
theorem decodeOctets_encodeOctet_append (b : UInt8) (rest : Text) :
    decodeOctets (encodeOctet b ++ rest) = b :: decodeOctets rest := by
  unfold decodeOctets
  rw [List.map_append]
  unfold encodeOctet
  split
  · next hplain =>
    have hne : ∀ d, isPlain d = false → Char.ofNat b.toNat ≠ d := by
      rintro d hd rfl
      rw [hplain] at hd
      cases hd
    have hplus : blankOfPlus (Char.ofNat b.toNat) = Char.ofNat b.toNat :=
      if_neg (by simpa using hne '+' (by decide))
    have hvisible : ∀ c ∈ [Char.ofNat b.toNat], IsVisibleChar c := by
      simpa using isVisibleChar_of_isPlain hplain
    have htoNat : ∀ n < 256, (Char.ofNat n).toNat = n := by decide +kernel
    rw [List.map_singleton, hplus, List.singleton_append, percentDecode_cons (hne '%' (by decide)),
      Octets.ofText_of_visible hvisible, List.map_singleton, htoNat _ b.toNat_lt,
      UInt8.ofNat_toNat, List.singleton_append]
  split
  · next hblank =>
    obtain rfl := beq_iff_eq.1 hblank
    exact percentDecode_cons (by decide)
  · have hescape : (escapeOctet b).map blankOfPlus = escapeOctet b := by
      have hdigit : ∀ n < 16, blankOfPlus (upperHexDigit n) = upperHexDigit n := by decide
      have hb := b.toNat_lt
      simp only [escapeOctet, List.map_cons, List.map_nil, hdigit (b.toNat / 16) (by omega),
        hdigit (b.toNat % 16) (by omega)]
      rfl
    change percentDecode ((escapeOctet b).map blankOfPlus ++ _) = _
    rw [hescape, percentDecode_escapeOctet]

theorem decodeOctets_flatMap (o : Octets) : decodeOctets (o.flatMap encodeOctet) = o := by
  induction o with
  | nil => rfl
  | cons b rest ih => rw [List.flatMap_cons, decodeOctets_encodeOctet_append, ih]

/-- A name or value is read as it was written. -/
theorem decodeText_encode (s : String) : decodeText (encode s) = s := by
  rw [decodeText, encode, decodeOctets_flatMap, Octets.ofString_eq_ofText, Octets.readText_ofText,
    String.ofList_toList]

/-! ## Pairs -/

/-- An octet is written with characters that cut no form and can stand in a query. -/
theorem all_encodeOctet : ∀ n < 256, (encodeOctet (.ofNat n)).all (fun c =>
    c != '&' && c != '=' && !isQueryEscaped true c) = true := by
  decide +kernel

theorem chars_of_mem_encode (h : c ∈ encode s) :
    c ≠ '&' ∧ c ≠ '=' ∧ isQueryEscaped true c = false := by
  obtain ⟨b, -, hc⟩ := List.mem_flatMap.1 h
  have hall := all_encodeOctet b.toNat b.toNat_lt
  rw [UInt8.ofNat_toNat] at hall
  simpa [and_assoc] using List.all_eq_true.1 hall c hc

theorem chars_of_mem_encodePair (h : c ∈ encodePair pair) :
    c ≠ '&' ∧ isQueryEscaped true c = false := by
  rw [encodePair, List.mem_append, List.mem_cons] at h
  rcases h with h | rfl | h
  · exact ⟨(chars_of_mem_encode h).1, (chars_of_mem_encode h).2.2⟩
  · decide
  · exact ⟨(chars_of_mem_encode h).1, (chars_of_mem_encode h).2.2⟩

theorem decodePair_encodePair (pair : String × String) : decodePair (encodePair pair) = pair := by
  have hname : '=' ∉ encode pair.1 := fun h => (chars_of_mem_encode h).2.1 rfl
  simp only [decodePair, encodePair, Text.cutAt_append hname, Option.getD_some, decodeText_encode]

theorem decode_encodePair (pair : String × String) : decode (encodePair pair) = [pair] := by
  have hplain : ∀ c ∈ encodePair pair, (c == '&') = false := by
    intro c hc
    exact beq_eq_false_iff_ne.2 (chars_of_mem_encodePair hc).1
  have hkept : [encodePair pair].filter (!·.isEmpty) = [encodePair pair] := by simp [encodePair]
  rw [decode, Text.pieces_eq_self hplain, hkept, List.map_singleton, decodePair_encodePair]

/-! ## Forms -/

/-- Two forms with the sign between them are read one after the other. -/
theorem decode_append (a b : Text) : decode (a ++ '&' :: b) = decode a ++ decode b := by
  unfold decode
  rw [Text.pieces_append rfl, List.filter_append, List.map_append]

/-- One pair behind a form is read behind the pairs of that. -/
theorem decode_append_encodePair (form : Text) (pair : String × String) :
    decode (form ++ (if form.isEmpty then [] else ['&']) ++ encodePair pair) =
      decode form ++ [pair] := by
  split
  · next hempty =>
    rw [List.isEmpty_iff.1 hempty, List.append_nil, List.nil_append, decode_encodePair]
    rfl
  · rw [List.append_assoc, List.singleton_append, decode_append, decode_encodePair]

/-- **Reading what was written.** Pairs that were put behind a form are read as they are, behind the
pairs of the form. -/
theorem decode_appendTo (form : Text) (pairs : List (String × String)) :
    decode (appendTo form pairs) = decode form ++ pairs := by
  induction pairs generalizing form with
  | nil => exact (List.append_nil _).symm
  | cons pair rest ih =>
    rw [appendTo, List.foldl_cons, ← appendTo, ih, decode_append_encodePair, List.append_assoc,
      List.singleton_append]

/-- Pairs are written with characters that can stand in a query. -/
theorem isQueryEscaped_of_mem_appendTo (hform : ∀ c ∈ form, isQueryEscaped true c = false) :
    ∀ c ∈ appendTo form pairs, isQueryEscaped true c = false := by
  induction pairs generalizing form with
  | nil => exact hform
  | cons pair rest ih =>
    rw [appendTo, List.foldl_cons, ← appendTo]
    apply ih
    intro c hc
    rw [List.mem_append, List.mem_append] at hc
    rcases hc with (hc | hc) | hc
    · exact hform c hc
    · split at hc
      · cases hc
      · rw [List.mem_singleton.1 hc]
        decide
    · exact (chars_of_mem_encodePair hc).2

end Courier.Form
