import Courier.Proofs.Json.Grammar
import Courier.Proofs.Octets
import Courier.Proofs.Text
import Mathlib.Data.List.DropRight

/-!
# What is written is JSON

The written form of a value is a text of the grammar: a string spells its characters, an integer is
a number, and an array or object is one of the written forms of its items or members.
-/

namespace Courier

/-- Only zero is written with a zero at the front. -/
theorem Text.exists_ofNat_eq_cons {n : Nat} (h : n ≠ 0) :
    ∃ c more, Text.ofNat n = c :: more ∧ c ≠ '0' := by
  have hdigit : ∀ d < 10, d ≠ 0 → Nat.digitChar d ≠ '0' := by decide
  induction n using Nat.strongRecOn with
  | ind n ih =>
    by_cases hn : n < 10
    · exact ⟨_, [], Nat.toDigits_of_lt_base hn, hdigit n hn h⟩
    · obtain ⟨c, more, hfront, hc⟩ := ih (n / 10) (by omega) (by omega)
      refine ⟨c, more ++ [Nat.digitChar (n % 10)], ?_, hc⟩
      rw [Text.ofNat, Nat.toDigits_of_base_le (by decide) (Nat.le_of_not_lt hn), ← Text.ofNat,
        hfront]
      rfl

namespace Json

open Octets (ofText)

variable {t : Text}

/-! ## Numbers -/

theorem isDigit_octet {c : Char} (h : c.isDigit = true) :
    isDigit (UInt8.ofNat c.toNat) = true ∧ (UInt8.ofNat c.toNat).toNat - 48 = hexDigitValue c := by
  have hrange : 48 ≤ c.toNat ∧ c.toNat ≤ 57 := by
    simpa [Char.isDigit, UInt32.le_iff_toNat_le] using h
  have hoctet : (UInt8.ofNat c.toNat).toNat = c.toNat := by
    rw [UInt8.toNat_ofNat']
    omega
  constructor
  · simp [isDigit, UInt8.le_iff_toNat_le, hoctet, hrange]
  · rw [hoctet, hexDigitValue, if_pos h]
    rfl

theorem digitsValue_ofText (h : ∀ c ∈ t, c.isDigit = true) :
    digitsValue (ofText t) = t.digitsValue 10 := by
  have hvisible : ∀ c ∈ t, IsVisibleChar c := fun c hc => isVisibleChar_of_isDigit (h c hc)
  rw [Octets.ofText_of_visible hvisible, digitsValue, List.foldl_map, Text.digitsValue]
  apply List.foldl_ext
  intro n c hc
  rw [(isDigit_octet (h c hc)).2]

theorem isDigits_ofText (hne : t ≠ []) (h : ∀ c ∈ t, c.isDigit = true) : IsDigits (ofText t) := by
  rw [Octets.ofText_of_visible fun c hc => isVisibleChar_of_isDigit (h c hc)]
  refine ⟨by simpa using hne, ?_⟩
  intro b hb
  obtain ⟨c, hc, rfl⟩ := List.mem_map.1 hb
  exact (isDigit_octet (h c hc)).1

/-- Digits are the whole part of a number if the first of them is no zero, or the only one. -/
theorem isWhole_ofText (hne : t ≠ []) (h : ∀ c ∈ t, c.isDigit = true)
    (hzero : t.head? = some '0' → t.length = 1) : IsWhole (ofText t) := by
  refine ⟨isDigits_ofText hne h, ?_⟩
  have hvisible : ∀ c ∈ t, IsVisibleChar c := fun c hc => isVisibleChar_of_isDigit (h c hc)
  obtain ⟨c, more, rfl⟩ := List.exists_cons_of_ne_nil hne
  rw [Octets.ofText_of_visible hvisible, List.length_map, List.map_cons, List.head?_cons,
    Option.some_inj]
  intro hoctet
  have hcode : c.toNat = 48 := by
    rw [← FieldValue.toNat_octet (hvisible c List.mem_cons_self), hoctet]
    rfl
  obtain rfl : c = '0' := Char.toNat_inj.1 hcode
  exact hzero rfl

theorem isWhole_ofNat (n : Nat) : IsWhole (ofText (Text.ofNat n)) := by
  refine isWhole_ofText (Text.ofNat_ne_nil n) (fun _ => Text.isDigit_of_mem_ofNat) fun hzero => ?_
  by_cases hn : n = 0
  · subst hn
    rfl
  · obtain ⟨c, more, hfront, hc⟩ := Text.exists_ofNat_eq_cons hn
    rw [hfront, List.head?_cons, Option.some_inj] at hzero
    exact absurd hzero hc

/-- A written integer as a number without decimals and exponent. -/
def integerNumber (i : Int) : NumberText :=
  ⟨i < 0, ofText (Text.ofNat i.natAbs), none, none⟩

theorem ofText_integerText (i : Int) : ofText (integerText i) =
    (if (integerNumber i).negative then [45] else []) ++ (integerNumber i).whole := by
  cases i with
  | ofNat n =>
    have hsign : ¬ (n : Int) < 0 := Int.not_lt.2 (Int.natCast_nonneg n)
    simp [integerText, integerNumber, hsign]
  | negSucc n =>
    rw [integerText, Octets.ofText_cons_of_ascii (by decide)]
    simp [integerNumber, Int.negSucc_lt_zero]

theorem spellsNumber_integerText (i : Int) :
    SpellsNumber (integerNumber i) (ofText (integerText i)) := by
  have hspells := SpellsNumber.mk (n := integerNumber i) (isWhole_ofNat i.natAbs) .none .none
  rwa [List.append_nil, List.append_nil, ← ofText_integerText] at hspells

theorem digitsValue_ofNat (n : Nat) : digitsValue (ofText (Text.ofNat n)) = n := by
  rw [digitsValue_ofText fun _ => Text.isDigit_of_mem_ofNat]
  exact Text.digitsValue_toDigits (by decide) (by decide) n

/-- A natural number of 64 bits is read as an integer. -/
theorem value_integerNumber {n : Nat} (h : n < Nat.pow 2 64) :
    (integerNumber n).value = .ok (.integer n) := by
  have hinteger : (integerNumber n).integer? = some (n : Int) := by
    have hsign : ¬ (n : Int) < 0 := Int.not_lt.2 (Int.natCast_nonneg n)
    simp [NumberText.integer?, integerNumber, digitsValue_ofNat, hsign, h]
  rw [NumberText.value, hinteger]

/-! ## Floating-point numbers -/

/-- The exponent of a written decimal. -/
theorem spellsExponent_integerText (i : Int) :
    SpellsExponent (some i) (ofText ('e' :: integerText i)) := by
  have hmark : (101 : UInt8) = 101 ∨ (101 : UInt8) = 69 := .inl rfl
  rw [Octets.ofText_cons_of_ascii (by decide)]
  cases i with
  | ofNat n =>
    have hspells := SpellsExponent.plain hmark (isWhole_ofNat n).1
    rw [digitsValue_ofNat] at hspells
    exact hspells
  | negSucc n =>
    have hspells := SpellsExponent.minus hmark (isWhole_ofNat (n + 1)).1
    rw [digitsValue_ofNat] at hspells
    rw [integerText, Octets.ofText_cons_of_ascii (by decide)]
    exact hspells

/-- The decimals of a written number. -/
theorem spellsDecimals_ofText (hne : t ≠ []) (h : ∀ c ∈ t, c.isDigit = true) :
    SpellsDecimals (some (ofText t)) (ofText ('.' :: t)) := by
  rw [Octets.ofText_cons_of_ascii (by decide)]
  exact .some (isDigits_ofText hne h)

theorem significantDigits_isPrefix (n : Nat) : significantDigits n <+: Text.ofNat n :=
  List.rdropWhile_prefix _ _

theorem isDigit_of_mem_significantDigits {n : Nat} {c : Char} (h : c ∈ significantDigits n) :
    c.isDigit = true :=
  Text.isDigit_of_mem_ofNat ((significantDigits_isPrefix n).subset h)

/-- The first of the significant digits is no zero. -/
theorem head_significantDigits {n : Nat} : (significantDigits n).head? ≠ some '0' := by
  intro hzero
  obtain ⟨more, hmore⟩ := significantDigits_isPrefix n
  obtain ⟨rest, hrest⟩ := List.head?_eq_some_iff.1 hzero
  rw [hrest, List.cons_append] at hmore
  by_cases hn : n = 0
  · subst hn
    cases hrest
  · obtain ⟨c, front, hfront, hc⟩ := Text.exists_ofNat_eq_cons hn
    rw [hfront, List.cons.injEq] at hmore
    exact hc hmore.1.symm

/-- A number without its sign. -/
def IsMagnitude (o : Octets) : Prop :=
  ∃ (n : NumberText) (decimals exponent : Octets), IsWhole n.whole ∧
    SpellsDecimals n.decimals decimals ∧ SpellsExponent n.exponent exponent ∧
    o = n.whole ++ decimals ++ exponent

/-- A whole part with decimals behind it. -/
theorem isMagnitude_decimals {w : Text} (hwhole : IsWhole (ofText w)) (hne : t ≠ [])
    (h : ∀ c ∈ t, c.isDigit = true) : IsMagnitude (ofText (w ++ '.' :: t)) := by
  refine ⟨⟨false, ofText w, _, _⟩, _, _, hwhole, spellsDecimals_ofText hne h, .none, ?_⟩
  rw [Octets.ofText_append, List.append_nil]

/-- A whole part with an exponent behind it, and maybe decimals before that. -/
theorem isMagnitude_exponent {w : Text} {decimals : Option Octets} (hwhole : IsWhole (ofText w))
    (h : SpellsDecimals decimals (ofText t)) (i : Int) :
    IsMagnitude (ofText (w ++ t ++ 'e' :: integerText i)) := by
  refine ⟨⟨false, ofText w, _, _⟩, _, _, hwhole, h, spellsExponent_integerText i, ?_⟩
  rw [Octets.ofText_append, Octets.ofText_append]

theorem exists_spellsNumber (negative : Bool) (h : IsMagnitude (ofText t)) :
    ∃ n, SpellsNumber n (ofText ((if negative then ['-'] else []) ++ t)) := by
  obtain ⟨n, decimals, exponent, hwhole, hdecimals, hexponent, hsum⟩ := h
  refine ⟨{ n with negative }, ?_⟩
  have hspells := SpellsNumber.mk (n := { n with negative }) hwhole hdecimals hexponent
  have hsign : ofText (if negative then ['-'] else []) = if negative then [45] else [] := by
    cases negative
    · rfl
    · rfl
  rw [Octets.ofText_append, hsign, hsum]
  rwa [List.append_assoc, List.append_assoc, ← List.append_assoc n.whole] at hspells

theorem isDigit_of_mem_zeros {k : Nat} : ∀ c ∈ List.replicate k '0', c.isDigit = true := by
  intro c hc
  rw [List.eq_of_mem_replicate hc]
  rfl

/-- Digits of which the first is no zero, with a point at any place, are a number. -/
theorem isMagnitude_placePoint {c : Char} {more : Text} (point : Int) (hc : c ≠ '0')
    (hdigits : ∀ d ∈ c :: more, d.isDigit = true) :
    IsMagnitude (ofText (placePoint (c :: more) point)) := by
  obtain ⟨hfirst, hmore⟩ := List.forall_mem_cons.1 hdigits
  have hwhole : ∀ t : Text, (∀ d ∈ t, d.isDigit = true) → IsWhole (ofText (c :: t)) :=
    fun t ht => isWhole_ofText (List.cons_ne_nil _ _) (List.forall_mem_cons.2 ⟨hfirst, ht⟩)
      fun hzero => absurd (Option.some_inj.1 hzero) hc
  unfold placePoint
  split
  · next hmiddle =>
    obtain ⟨k, rfl⟩ : ∃ k : Nat, point = (k + 1 : Nat) := ⟨point.toNat - 1, by omega⟩
    rw [Int.toNat_natCast]
    split
    · have hzeros : ∀ d ∈ more ++ List.replicate (k + 1 - (c :: more).length) '0',
          d.isDigit = true := fun d hd =>
        (List.mem_append.1 hd).elim (hmore d) (isDigit_of_mem_zeros d)
      exact isMagnitude_decimals (hwhole _ hzeros) (List.cons_ne_nil _ _)
        (isDigit_of_mem_zeros (k := 1))
    · next hlong =>
      have hbehind : more.drop k ≠ [] := by
        rw [List.length_cons] at hlong
        rw [ne_eq, List.drop_eq_nil_iff]
        omega
      exact isMagnitude_decimals (hwhole _ fun d hd => hmore d (List.mem_of_mem_take hd)) hbehind
        fun d hd => hmore d (List.mem_of_mem_drop hd)
  · split
    · have hzeros : ∀ d ∈ List.replicate (-point).toNat '0' ++ c :: more, d.isDigit = true :=
        fun d hd => (List.mem_append.1 hd).elim (isDigit_of_mem_zeros d) (hdigits d)
      exact isMagnitude_decimals (w := ['0']) (isWhole_ofNat 0) (by simp) hzeros
    · have hone := hwhole [] (List.forall_mem_nil _)
      cases more with
      | nil => exact isMagnitude_exponent (t := []) hone .none _
      | cons d rest =>
        exact isMagnitude_exponent hone (spellsDecimals_ofText (List.cons_ne_nil _ _) hmore) _

/-- A written decimal is a number. -/
theorem exists_spellsNumber_decimal (negative : Bool) (m : Nat) (e : Int) :
    ∃ n, SpellsNumber n (ofText (decimal negative m e).toText) := by
  refine exists_spellsNumber negative ?_
  unfold decimalText
  split
  · exact isMagnitude_decimals (w := ['0']) (isWhole_ofNat 0) (List.cons_ne_nil _ _)
      (isDigit_of_mem_zeros (k := 1))
  · next hne =>
    obtain ⟨c, more, hcons⟩ := List.exists_cons_of_ne_nil hne
    rw [hcons]
    refine isMagnitude_placePoint _ ?_ fun d hd => isDigit_of_mem_significantDigits (hcons ▸ hd)
    rintro rfl
    exact head_significantDigits (congrArg List.head? hcons)

/-! ## Strings -/

theorem spellsChar_short {c d mark : Char} (h : (c == d) = true)
    (hmark : (d, UInt8.ofNat mark.toNat) ∈ shortEscapes) (hascii : mark.toNat < 128) :
    SpellsChar c (ofText ['\\', mark]) := by
  obtain rfl : c = d := eq_of_beq h
  rw [Octets.ofText_cons_of_ascii (by decide), Octets.ofText_cons_of_ascii hascii]
  exact .short hmark

theorem octet_hexDigit : ∀ d < 16, (hexDigit d).toNat < 128 ∧
    hexValue? (UInt8.ofNat (hexDigit d).toNat) = some d := by
  decide

/-- A control character is written with the four digits of its number. -/
theorem spellsChar_control {c : Char} (h : c < ' ') : SpellsChar c
    (ofText ['\\', 'u', '0', '0', hexDigit (c.toNat / 16), hexDigit (c.toNat % 16)]) := by
  have hlow : c.toNat < 32 := h
  obtain ⟨hhigh, hp⟩ := octet_hexDigit (c.toNat / 16) (by omega)
  obtain ⟨hlow, hq⟩ := octet_hexDigit (c.toNat % 16) (by omega)
  have hzero := (octet_hexDigit 0 (by decide)).2
  have hunit := SpellsUnit.mk hzero hzero hp hq
  have hnumber : ((0 * 16 + 0) * 16 + c.toNat / 16) * 16 + c.toNat % 16 = c.toNat := by omega
  rw [hnumber] at hunit
  iterate 4 rw [Octets.ofText_cons_of_ascii (by decide)]
  rw [Octets.ofText_cons_of_ascii hhigh, Octets.ofText_cons_of_ascii hlow]
  exact .unit hunit

theorem spellsChar_escapeChar (c : Char) : SpellsChar c (ofText (escapeChar c)) := by
  unfold escapeChar
  split_ifs with hself h h h h h h
  · rcases Bool.or_eq_true_iff.1 hself with h | h
    · rw [eq_of_beq h]
      exact spellsChar_short BEq.rfl (by decide) (by decide)
    · rw [eq_of_beq h]
      exact spellsChar_short BEq.rfl (by decide) (by decide)
  · exact spellsChar_short h (by decide) (by decide)
  · exact spellsChar_short h (by decide) (by decide)
  · exact spellsChar_short h (by decide) (by decide)
  · exact spellsChar_short h (by decide) (by decide)
  · exact spellsChar_short h (by decide) (by decide)
  · exact spellsChar_control h
  · rw [Bool.or_eq_true, beq_iff_eq, beq_iff_eq, not_or] at hself
    have hspells := SpellsChar.plain (Char.not_lt.1 h) hself.1 hself.2
    rwa [Octets.ofText_eq_flatMap, List.flatMap_singleton]

theorem spellsText_flatMap (t : Text) : SpellsText t (ofText (t.flatMap escapeChar)) := by
  induction t with
  | nil => exact .nil
  | cons c rest ih =>
    rw [List.flatMap_cons, Octets.ofText_append]
    exact .cons (spellsChar_escapeChar c) ih

theorem spellsString_stringText (s : String) : SpellsString s (ofText (stringText s)) := by
  have hspells := SpellsString.mk (spellsText_flatMap s.toList)
  rw [stringText, Octets.ofText_append, Octets.ofText_cons_of_ascii (by decide)]
  exact hspells

/-! ## Arrays and objects -/

theorem isListed_itemsText (items : List Json) :
    IsListed false (items.map fun j => ofText j.toText) (ofText (itemsText items)) := by
  induction items with
  | nil => exact .nil isBlanks_nil
  | cons j items ih =>
    rw [itemsText, List.cons_append, Octets.ofText_cons_of_ascii (by decide), Octets.ofText_append]
    exact .cons (.next isBlanks_nil isBlanks_nil) ih

theorem isArray_toText (items : List Json) :
    IsArray (items.map fun j => ofText j.toText) (ofText (array items).toText) := by
  cases items with
  | nil => exact .mk (.nil isBlanks_nil)
  | cons j items =>
    rw [toText, Octets.ofText_append, List.cons_append, Octets.ofText_cons_of_ascii (by decide),
      Octets.ofText_append]
    exact .mk (.cons (.first isBlanks_nil) (isListed_itemsText items))

/-- A member with the written form of its value. -/
def written (m : String × Json) : String × Octets :=
  (m.1, ofText m.2.toText)

/-- A member as it is written. -/
def memberOctets (m : String × Json) : Octets :=
  ofText (stringText m.1) ++ 58 :: ofText m.2.toText

theorem isMember_memberOctets (m : String × Json) :
    IsMember (written m).1 (written m).2 (memberOctets m) := by
  have hmember : IsMember (written m).1 (written m).2 _ :=
    .mk (spellsString_stringText m.1) isBlanks_nil isBlanks_nil
  rwa [List.append_nil, List.append_assoc] at hmember

theorem isListed_membersText (members : List (String × Json)) :
    IsListed false (members.map memberOctets) (ofText (membersText members)) := by
  induction members with
  | nil => exact .nil isBlanks_nil
  | cons m members ih =>
    obtain ⟨name, value⟩ := m
    rw [membersText, Octets.ofText_append, Octets.ofText_append,
      Octets.ofText_cons_of_ascii (by decide), Octets.ofText_cons_of_ascii (by decide)]
    exact .cons (.next isBlanks_nil isBlanks_nil) ih

/-- A written object is one of the written forms of its values, in their order. -/
theorem isObject_toText (members : List (String × Json)) :
    IsObject (members.map written) (ofText (object members).toText) := by
  have hmembers : List.Forall₂ (fun m text => IsMember m.1 m.2 text) (members.map written)
      (members.map memberOctets) := by
    rw [List.forall₂_map_left_iff, List.forall₂_map_right_iff, List.forall₂_same]
    intro m _
    exact isMember_memberOctets m
  cases members with
  | nil => exact .mk hmembers (.nil isBlanks_nil)
  | cons m members =>
    obtain ⟨name, value⟩ := m
    have hlisted := isListed_membersText members
    have hobject := IsObject.mk hmembers (.cons (.first isBlanks_nil) hlisted)
    rw [toText, Octets.ofText_append, Octets.ofText_append, Octets.ofText_append,
      Octets.ofText_cons_of_ascii (by decide), Octets.ofText_cons_of_ascii (by decide)]
    exact hobject

/-! ## Values -/

theorem spellsScalar_bool (b : Bool) : SpellsScalar (bool b) (ofText (bool b).toText) := by
  cases b with
  | true => exact .bool true
  | false => exact .bool false

theorem spellsScalar_integer {n : Nat} (h : n < Nat.pow 2 64) :
    SpellsScalar (integer n) (ofText (integer n).toText) :=
  .integer (spellsNumber_integerText n) (value_integerNumber h)

theorem spellsScalar_string (s : String) : SpellsScalar (string s) (ofText (string s).toText) :=
  .string (spellsString_stringText s)

mutual

/-- **What is written is JSON.** -/
theorem isValue_toText : ∀ j : Json, IsValue (ofText j.toText)
  | null => .word (.inl rfl)
  | bool true => .word (.inr (.inl rfl))
  | bool false => .word (.inr (.inr rfl))
  | integer i => .number (spellsNumber_integerText i)
  | decimal negative m e =>
    let ⟨_, h⟩ := exists_spellsNumber_decimal negative m e
    .number h
  | string s => .string (spellsString_stringText s)
  | array items => .array (isArray_toText items) (isValue_of_mem_items items)
  | object members => .object (isObject_toText members) (isValue_of_mem_members members)

theorem isValue_of_mem_items :
    ∀ items : List Json, ∀ o ∈ items.map fun j => ofText j.toText, IsValue o
  | [] => nofun
  | j :: items => by
    intro o ho
    rcases List.mem_cons.1 ho with rfl | ho
    · exact isValue_toText j
    · exact isValue_of_mem_items items o ho

theorem isValue_of_mem_members : ∀ members : List (String × Json),
    ∀ m ∈ members.map written, IsValue m.2
  | [] => nofun
  | (name, value) :: members => by
    intro m hm
    rcases List.mem_cons.1 hm with rfl | hm
    · exact isValue_toText value
    · exact isValue_of_mem_members members m hm

end

end Json

end Courier
