import Courier.Proofs.Field

/-!
# Reading octets

Octets are cut at a separator, and are read as text in UTF-8. Where they are not those of a text,
the longest start of a character that goes no further is read as the replacement character. The
octets of a text are read as that text.
-/

namespace Courier.Octets

variable {a b o : Octets} {sep : UInt8} {t : Text} {c : Char}

theorem ofText_append (t t' : Text) : ofText (t ++ t') = ofText t ++ ofText t' := by
  rw [ofText_eq_flatMap, ofText_eq_flatMap, ofText_eq_flatMap, List.flatMap_append]

theorem ofString_eq_ofText (s : String) : ofString s = ofText s.toList := by
  rw [ofText, String.ofList_toList]

/-! ## Octets of ASCII -/

theorem utf8EncodeChar_of_ascii (hc : c.toNat < 128) :
    String.utf8EncodeChar c = [UInt8.ofNat c.toNat] := by
  have hle : c.val.toNat ≤ 127 := Nat.le_of_lt_succ hc
  unfold String.utf8EncodeChar
  dsimp only
  rw [if_pos hle]
  rfl

/-- A character outside ASCII has no octet of ASCII. -/
theorem le_of_mem_utf8EncodeChar (hc : 128 ≤ c.toNat) :
    ∀ octet ∈ String.utf8EncodeChar c, 128 ≤ octet.toNat := by
  have hgt : ¬ c.val.toNat ≤ 127 := Nat.not_le_of_gt hc
  unfold String.utf8EncodeChar
  dsimp only
  rw [if_neg hgt]
  intro octet hmem
  split at hmem
  all_goals try split at hmem
  all_goals
    simp only [List.mem_cons, List.not_mem_nil, or_false] at hmem
    rcases hmem with rfl | rfl | rfl | rfl
    all_goals
      rw [UInt8.toNat_ofNat']
      omega

theorem ofText_cons_of_ascii (hc : c.toNat < 128) :
    ofText (c :: t) = UInt8.ofNat c.toNat :: ofText t := by
  rw [ofText_eq_flatMap, ofText_eq_flatMap, List.flatMap_cons, utf8EncodeChar_of_ascii hc]
  rfl

/-- The octet of a character of ASCII stands just where that character does. -/
theorem mem_ofText_iff (hc : c.toNat < 128) : UInt8.ofNat c.toNat ∈ ofText t ↔ c ∈ t := by
  have hoctet : (UInt8.ofNat c.toNat).toNat = c.toNat := by
    rw [UInt8.toNat_ofNat']
    omega
  rw [ofText_eq_flatMap, List.mem_flatMap]
  constructor
  · rintro ⟨d, hd, hmem⟩
    by_cases hascii : d.toNat < 128
    · rw [utf8EncodeChar_of_ascii hascii, List.mem_singleton] at hmem
      have hsame : c.toNat = d.toNat := by
        rw [← hoctet, hmem, UInt8.toNat_ofNat']
        omega
      rwa [Char.ext (UInt32.toNat_inj.1 hsame)]
    · have hle := le_of_mem_utf8EncodeChar (by omega) _ hmem
      omega
  · intro h
    exact ⟨c, h, by rw [utf8EncodeChar_of_ascii hc]; exact List.mem_singleton_self _⟩

/-! ## Cutting -/

/-- The octets before the first `sep`, and those after it where there is one. -/
def cutAt (sep : UInt8) : Octets → Octets × Option Octets
  | [] => ([], none)
  | b :: rest =>
    if b == sep then ([], some rest)
    else
      let (before, after) := cutAt sep rest
      (b :: before, after)

theorem cutAt_append (ha : sep ∉ a) : (a ++ sep :: b).cutAt sep = (a, some b) := by
  induction a with
  | nil => simp [cutAt]
  | cons c rest ih =>
    rw [List.mem_cons, not_or] at ha
    have hc : (c == sep) = false := beq_eq_false_iff_ne.2 (Ne.symm ha.1)
    have hrest := ih ha.2
    rw [List.cons_append, cutAt]
    simp [hc, hrest]

/-- Octets of a text are cut at a character of ASCII just as the text is. -/
theorem cutAt_ofText {before after : Text} (hc : c.toNat < 128) (hbefore : c ∉ before) :
    (ofText (before ++ c :: after)).cutAt (.ofNat c.toNat) =
      (ofText before, some (ofText after)) := by
  rw [ofText_append, ofText_cons_of_ascii hc]
  exact cutAt_append ((mem_ofText_iff hc).not.2 hbefore)

/-- What stands before the first separator holds none. -/
theorem not_mem_fst_cutAt : sep ∉ (o.cutAt sep).1 := by
  induction o with
  | nil => exact List.not_mem_nil
  | cons c rest ih =>
    rw [cutAt]
    split
    · exact List.not_mem_nil
    · next hc =>
      rw [List.mem_cons, not_or]
      refine ⟨?_, ih⟩
      rintro rfl
      exact hc BEq.rfl

/-! ## Reading UTF-8 -/

/-- What may follow the first octet of a character of several octets: the lowest and the highest
second octet, and how many octets there are after the first. -/
def following? (first : UInt8) : Option (UInt8 × UInt8 × Nat) :=
  if 0xC2 ≤ first && first ≤ 0xDF then some (0x80, 0xBF, 1)
  else if first == 0xE0 then some (0xA0, 0xBF, 2)
  else if first == 0xED then some (0x80, 0x9F, 2)
  else if 0xE1 ≤ first && first ≤ 0xEF then some (0x80, 0xBF, 2)
  else if first == 0xF0 then some (0x90, 0xBF, 3)
  else if 0xF1 ≤ first && first ≤ 0xF3 then some (0x80, 0xBF, 3)
  else if first == 0xF4 then some (0x80, 0x8F, 3)
  else none

/-- An octet that continues a character. -/
def isContinuation (b : UInt8) : Bool :=
  0x80 ≤ b && b ≤ 0xBF

/-- What is left of the octets behind a first one with which no character starts: those that could
still have been of one character with it are passed over. -/
def afterBroken (first : UInt8) (rest : Octets) : Octets :=
  match following? first, rest with
  | some (low, high, count), second :: more =>
    if low ≤ second && second ≤ high then
      more.drop ((more.take (count - 1)).takeWhile isContinuation).length
    else rest
  | _, _ => rest

theorem length_afterBroken_le (first : UInt8) (rest : Octets) :
    (afterBroken first rest).length ≤ rest.length := by
  unfold afterBroken
  split
  · split
    · rw [List.length_drop, List.length_cons]
      omega
    · exact Nat.le_refl _
  · exact Nat.le_refl _

/-- The text that octets are in UTF-8, with U+FFFD for what is of no character. -/
def readText : Octets → Text
  | [] => []
  | first :: rest =>
    match (first :: rest).toByteArray.utf8DecodeChar? 0 with
    | some c => c :: readText (rest.drop (c.utf8Size - 1))
    | none => '\uFFFD' :: readText (afterBroken first rest)
termination_by o => o.length
decreasing_by
  · rw [List.length_drop, List.length_cons]
    omega
  · exact Nat.lt_succ_of_le (length_afterBroken_le first rest)

example : readText [0xF0, 0x9F, 0x98, 0x41] = ['\uFFFD', 'A'] := by cbv

/-- A character is read from its octets, whatever follows them. -/
theorem readText_utf8EncodeChar_append (c : Char) (o : Octets) :
    readText (String.utf8EncodeChar c ++ o) = c :: readText o := by
  have hdecode : (String.utf8EncodeChar c ++ o).toByteArray.utf8DecodeChar? 0 = some c := by
    rw [List.toByteArray_append]
    exact ByteArray.utf8DecodeChar?_utf8EncodeChar_append
  have hlength := String.length_utf8EncodeChar c
  have hpos := c.utf8Size_pos
  cases hoctets : String.utf8EncodeChar c with
  | nil =>
    rw [hoctets, List.length_nil] at hlength
    omega
  | cons first more =>
    rw [hoctets, List.length_cons] at hlength
    rw [hoctets, List.cons_append] at hdecode
    have hmore : (more ++ o).drop (c.utf8Size - 1) = o := List.drop_left' (by omega)
    rw [List.cons_append, readText, hdecode]
    dsimp only
    rw [hmore]

/-- **Reading what was written.** The octets of a text are read as that text. -/
theorem readText_ofText (t : Text) : readText (ofText t) = t := by
  rw [ofText_eq_flatMap]
  induction t with
  | nil => rw [List.flatMap_nil, readText]
  | cons c rest ih => rw [List.flatMap_cons, readText_utf8EncodeChar_append, ih]

/-- The octets of a text are those of a string. -/
theorem toString?_ofText (t : Text) : (ofText t).toString? = some (String.ofList t) := by
  have hvalid : ByteArray.IsValidUTF8 ⟨(ofText t).toArray⟩ := (String.ofList t).isValidUTF8
  unfold toString? String.fromUTF8?
  rw [dif_pos hvalid]
  rfl

theorem ofText_of_toString? {s : String} (h : o.toString? = some s) : ofText s.toList = o := by
  unfold toString? String.fromUTF8? at h
  split at h
  · cases h
    rw [← ofString_eq_ofText]
    rfl
  · cases h

theorem ofText_injective : Function.Injective ofText :=
  Function.LeftInverse.injective readText_ofText

end Courier.Octets
