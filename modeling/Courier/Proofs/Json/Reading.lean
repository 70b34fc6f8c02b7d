import Courier.Proofs.Json.Grammar
import Courier.Proofs.Octets
import Courier.Proofs.Uri

/-!
# Reading what the grammar allows

Each reader takes a text of the grammar off the front of its input and leaves the rest as it is. Of
that rest only a number asks anything: that it does not go on with the number. Fuel of the length of
the text is enough.
-/

namespace Courier

theorem ok_bind {ε α β : Type} (a : α) (f : α → Except ε β) :
    (Except.ok a : Except ε α) >>= f = f a :=
  rfl

theorem pure_eq_ok {ε α : Type} (a : α) : (pure a : Except ε α) = .ok a :=
  rfl

namespace Json

variable {b mark : UInt8} {o o' a before blanks rest : Octets} {fuel : Nat} {first keep : Bool}

/-! ## Blanks -/

theorem skipBlanks_of_isBlanks (h : IsBlanks o) : skipBlanks o = [] :=
  List.dropWhile_eq_nil_iff.2 h

/-- Blanks make no difference to what comes next. -/
theorem peek_blanks (h : IsBlanks before) (o : Octets) : peek (before ++ o) = peek o := by
  unfold peek skipBlanks
  rw [List.dropWhile_append_of_pos h]

theorem peek_cons (hb : isBlank b = false) : peek (b :: rest) = .ok (b, b :: rest) := by
  have hskip : skipBlanks (b :: rest) = b :: rest := by
    apply List.dropWhile_cons_of_neg
    rw [hb]
    exact Bool.false_ne_true
  unfold peek
  rw [hskip]

theorem peek_append (h : IsBlanks before) (hb : isBlank b = false) :
    peek (before ++ b :: rest) = .ok (b, b :: rest) := by
  rw [peek_blanks h, peek_cons hb]

theorem punctuation_append (h : IsBlanks before) (hmark : isBlank mark = false) :
    punctuation mark (before ++ mark :: rest) = .ok rest := by
  rw [punctuation, peek_append h hmark, ok_bind]
  simp

theorem expect_append (word rest : Octets) : expect word (word ++ rest) = .ok rest := by
  induction word with
  | nil => rfl
  | cons w word ih =>
    rw [List.cons_append, expect, ih]
    simp

/-! ## Numbers -/

/-- A number does not go on with these octets. -/
def EndsNumber (rest : Octets) : Prop :=
  ∀ b ∈ rest.head?, isDigit b = false ∧ b ≠ 46 ∧ b ≠ 101 ∧ b ≠ 69

theorem endsNumber_of_isBlank (h : isBlank b = true) : EndsNumber (b :: o) := by
  intro b' hb'
  obtain rfl : b = b' := by simpa using hb'
  simp only [isBlank, Bool.or_eq_true, beq_iff_eq] at h
  rcases h with ((rfl | rfl) | rfl) | rfl
  all_goals decide

theorem endsNumber_append (h : IsBlanks before) (ho : EndsNumber o) : EndsNumber (before ++ o) := by
  cases before with
  | nil => exact ho
  | cons b before => exact endsNumber_of_isBlank (h b List.mem_cons_self)

theorem isBlank_of_isDigit (h : isDigit b = true) : isBlank b = false := by
  by_contra hblank
  obtain ⟨hend, -⟩ := endsNumber_of_isBlank (o := []) (eq_true_of_ne_false hblank) b rfl
  exact Bool.false_ne_true (hend.symm.trans h)

theorem digits_append (h : IsDigits a) (hrest : ∀ b ∈ rest.head?, isDigit b = false) :
    digits (a ++ rest) = .ok (a, rest) := by
  obtain ⟨hne, hall⟩ := h
  have htake : (a ++ rest).takeWhile isDigit = a ∧ (a ++ rest).dropWhile isDigit = rest := by
    rw [List.takeWhile_append_of_pos hall, List.dropWhile_append_of_pos hall]
    cases rest with
    | nil => simp
    | cons b rest => simp [hrest b (by simp)]
  cases a with
  | nil => exact absurd rfl hne
  | cons b a =>
    have hb := hall b List.mem_cons_self
    rw [List.cons_append] at htake ⊢
    rw [digits, htake.1, htake.2, if_pos hb]

theorem readDecimals_append {ds : Option Octets} (h : SpellsDecimals ds o)
    (hrest : ∀ b ∈ rest.head?, isDigit b = false ∧ b ≠ 46) :
    readDecimals (o ++ rest) = .ok (ds, rest) := by
  cases h with
  | none =>
    unfold readDecimals
    split
    · next heq =>
      rw [List.nil_append] at heq
      subst heq
      exact absurd rfl (hrest 46 rfl).2
    · rfl
  | some h =>
    rw [List.cons_append, readDecimals, digits_append h fun b hb => (hrest b hb).1]
    rfl

theorem IsDigits.exists_cons (h : IsDigits o) : ∃ b more, o = b :: more ∧ isDigit b = true := by
  obtain ⟨hne, hall⟩ := h
  obtain ⟨b, more, rfl⟩ := List.exists_cons_of_ne_nil hne
  exact ⟨b, more, rfl, hall b List.mem_cons_self⟩

theorem ne_of_isDigit (h : isDigit b = true) (hmark : isDigit mark = false) : b ≠ mark := by
  rintro rfl
  exact Bool.false_ne_true (hmark.symm.trans h)

theorem readExponent_append {e : Option Int} (h : SpellsExponent e o) (hrest : EndsNumber rest) :
    readExponent (o ++ rest) = .ok (e, rest) := by
  have hdigit : ∀ b ∈ rest.head?, isDigit b = false := fun b hb => (hrest b hb).1
  cases h with
  | none =>
    cases rest with
    | nil => rfl
    | cons b rest =>
      have hb := (hrest b rfl).2.2
      rw [List.nil_append, readExponent]
      simp [hb]
  | plain hmark h =>
    have hread := digits_append h hdigit
    obtain ⟨b, more, rfl, hb⟩ := h.exists_cons
    have hminus : b ≠ 45 := ne_of_isDigit hb rfl
    have hplus : b ≠ 43 := ne_of_isDigit hb rfl
    rw [List.cons_append] at hread ⊢
    rw [readExponent]
    simp [hmark, hminus, hplus, hread, ok_bind]
  | plus hmark h | minus hmark h =>
    rw [List.cons_append, List.cons_append, readExponent]
    simp [hmark, digits_append h hdigit, ok_bind]

theorem head_exponent {e : Option Int} (h : SpellsExponent e o) (hrest : EndsNumber rest) :
    ∀ b ∈ (o ++ rest).head?, isDigit b = false ∧ b ≠ 46 := by
  intro b hb
  cases h with
  | none => exact ⟨(hrest b hb).1, (hrest b hb).2.1⟩
  | plain hmark | plus hmark | minus hmark =>
    rw [List.cons_append, List.head?_cons, Option.mem_some_iff] at hb
    rcases hmark with rfl | rfl
    all_goals
      subst hb
      decide

theorem head_decimals {ds : Option Octets} (h : SpellsDecimals ds o)
    (hrest : ∀ b ∈ rest.head?, isDigit b = false) :
    ∀ b ∈ (o ++ rest).head?, isDigit b = false := by
  intro b hb
  cases h with
  | none => exact hrest b hb
  | some =>
    rw [List.cons_append, List.head?_cons, Option.mem_some_iff] at hb
    subst hb
    rfl

theorem readNumberText_append {n : NumberText} (h : SpellsNumber n o) (hrest : EndsNumber rest) :
    readNumberText (o ++ rest) = .ok (n, rest) := by
  obtain ⟨negative, whole, ds, e⟩ := n
  obtain @⟨decimals, exponent, ⟨hdigits, hzero⟩, hdecimals, hexponent⟩ := h
  dsimp only at hdigits hzero hdecimals hexponent ⊢
  have hbehind := head_exponent hexponent hrest
  have hwhole : digits (whole ++ (decimals ++ (exponent ++ rest))) =
      .ok (whole, decimals ++ (exponent ++ rest)) :=
    digits_append hdigits (head_decimals hdecimals fun b hb => (hbehind b hb).1)
  have hrule : ¬ (whole.head? = some 48 ∧ whole.length ≠ 1) := fun hlong => hlong.2 (hzero hlong.1)
  have hends := readDecimals_append hdecimals hbehind
  have hexp := readExponent_append hexponent hrest
  cases negative with
  | true =>
    rw [readNumberText]
    simp [hwhole, hrule, hends, hexp, ok_bind]
  | false =>
    have hhead : ((whole ++ (decimals ++ (exponent ++ rest))).head? == some 45) = false := by
      obtain ⟨b, more, rfl, hb⟩ := hdigits.exists_cons
      have hminus : b ≠ 45 := ne_of_isDigit hb rfl
      simp [hminus]
    rw [readNumberText]
    simp only [Bool.false_eq_true, if_false, List.nil_append, List.append_assoc, hhead, hwhole,
      hends, hexp, ok_bind]
    simp [hrule]

/-! ## Strings -/

theorem readHex_append {n : Nat} (h : SpellsUnit n o) : readHex (o ++ rest) = .ok (n, rest) := by
  cases h with
  | mk ha hb hc hd =>
    simp only [List.cons_append, List.nil_append, readHex, ha, hb, hc, hd]

theorem readEscape_short {c : Char} (h : (c, mark) ∈ shortEscapes) :
    readEscape keep (mark :: rest) = .ok (String.utf8EncodeChar c, rest) := by
  simp only [shortEscapes, List.mem_cons, List.not_mem_nil, or_false, Prod.mk.injEq] at h
  rcases h with h | h | h | h | h | h | h | h
  all_goals
    obtain ⟨rfl, rfl⟩ := h
    rfl

/-- Escaped units are not looked at in a string that is passed over. -/
theorem readEscape_skip {n : Nat} (h : SpellsUnit n o) :
    readEscape false (117 :: o ++ rest) = .ok ([], rest) := by
  change readUnit false (o ++ rest) = _
  rw [readUnit, readHex_append h]
  rfl

theorem readEscape_unit {c : Char} (h : SpellsUnit c.toNat o) :
    readEscape true (117 :: o ++ rest) = .ok (String.utf8EncodeChar c, rest) := by
  have hvalid : c.toNat < 0xD800 ∨ 0xDFFF < c.toNat ∧ c.toNat < 0x110000 := c.valid
  have hhigh : ¬ (0xD800 ≤ c.toNat ∧ c.toNat ≤ 0xDBFF) := by omega
  have hlow : ¬ (0xDC00 ≤ c.toNat ∧ c.toNat ≤ 0xDFFF) := by omega
  change readUnit true (o ++ rest) = _
  rw [readUnit, readHex_append h, ok_bind]
  simp [hhigh, hlow, Octets.ofText_eq_flatMap]

theorem readEscape_pair {c : Char} {high low : Nat} (h : SpellsUnit high o) (h' : SpellsUnit low o')
    (hhigh : 0xD800 ≤ high ∧ high ≤ 0xDBFF) (hlow : 0xDC00 ≤ low ∧ low ≤ 0xDFFF)
    (hc : c.toNat = 0x10000 + (high - 0xD800) * 0x400 + (low - 0xDC00)) :
    readEscape true (117 :: o ++ (92 :: 117 :: o' ++ rest)) =
      .ok (String.utf8EncodeChar c, rest) := by
  have hfirst : ¬ (0xDC00 ≤ high ∧ high ≤ 0xDFFF) := by omega
  change readUnit true (o ++ (92 :: 117 :: (o' ++ rest))) = _
  rw [readUnit, readHex_append h, ok_bind]
  simp [hfirst, hhigh, hlow, exactly, readHex_append h', ok_bind, ← hc, Octets.ofText_eq_flatMap]

/-- The octets of a character that stands for itself are those of the string. -/
theorem plain_of_mem_utf8EncodeChar {c : Char} (hlow : ' ' ≤ c) (hquote : c ≠ '"')
    (hslash : c ≠ '\\') : ∀ b ∈ String.utf8EncodeChar c, b ≠ 34 ∧ b ≠ 92 ∧ ¬ b < 32 := by
  intro b hb
  have hlow : 32 ≤ c.toNat := hlow
  have hquote : c.toNat ≠ 34 := fun h => hquote (Char.toNat_inj.1 h)
  have hslash : c.toNat ≠ 92 := fun h => hslash (Char.toNat_inj.1 h)
  have hoctet : 32 ≤ b.toNat ∧ b.toNat ≠ 34 ∧ b.toNat ≠ 92 := by
    by_cases hc : c.toNat < 128
    · rw [Octets.utf8EncodeChar_of_ascii hc, List.mem_singleton] at hb
      rw [hb, UInt8.toNat_ofNat']
      omega
    · have hle := Octets.le_of_mem_utf8EncodeChar (Nat.le_of_not_lt hc) b hb
      omega
  refine ⟨?_, ?_, ?_⟩
  · rintro rfl
    exact hoctet.2.1 rfl
  · rintro rfl
    exact hoctet.2.2 rfl
  · exact UInt8.not_lt.2 hoctet.1

/-- What is read of a string, put behind what was read before. -/
def contentAfter (part : Octets) (read : Except ReadError (Octets × Octets)) :
    Except ReadError (Octets × Octets) :=
  read.map fun (more, rest) => (part ++ more, rest)

theorem contentAfter_append (part part' : Octets) (read : Except ReadError (Octets × Octets)) :
    contentAfter part (contentAfter part' read) = contentAfter (part ++ part') read := by
  cases read with
  | error e => rfl
  | ok r => simp [contentAfter, Except.map]

theorem readContent_octet (h : b ≠ 34 ∧ b ≠ 92 ∧ ¬ b < 32) :
    readContent keep (fuel + 1) (b :: o) = contentAfter [b] (readContent keep fuel o) := by
  obtain ⟨hquote, hslash, hlow⟩ := h
  rw [readContent]
  simp only [beq_iff_eq, hquote, hslash, hlow, if_false]
  cases readContent keep fuel o with
  | error e => rfl
  | ok r => rfl

theorem readContent_escape {part : Octets} (h : readEscape keep o = .ok (part, o')) :
    readContent keep (fuel + 1) (92 :: o) = contentAfter part (readContent keep fuel o') := by
  rw [readContent, if_neg (by decide), if_pos (by decide), h, ok_bind]
  dsimp only
  cases readContent keep fuel o' with
  | error e => rfl
  | ok r => rfl

theorem readContent_plain (h : ∀ b ∈ a, b ≠ 34 ∧ b ≠ 92 ∧ ¬ b < 32) :
    readContent keep (a.length + fuel) (a ++ o) = contentAfter a (readContent keep fuel o) := by
  induction a with
  | nil =>
    rw [List.length_nil, Nat.zero_add, List.nil_append]
    cases readContent keep fuel o with
    | error e => rfl
    | ok r => rfl
  | cons b a ih =>
    have hlength : (b :: a).length + fuel = a.length + fuel + 1 := by
      rw [List.length_cons]
      omega
    rw [hlength, List.cons_append, readContent_octet (h b List.mem_cons_self),
      ih fun c hc => h c (List.mem_cons_of_mem b hc), contentAfter_append]
    rfl

/-- A character is taken off the front of the string. Its octets are taken over if they are kept. -/
theorem readContent_char (keep : Bool) (rest : Octets) {c : Char} (h : SpellsChar c o)
    (hfuel : o.length ≤ fuel) :
    ∃ part left, fuel ≤ left + o.length ∧ (keep = true → part = String.utf8EncodeChar c) ∧
      readContent keep fuel (o ++ rest) = contentAfter part (readContent keep left rest) := by
  cases h with
  | plain hlow hquote hslash =>
    obtain ⟨left, rfl⟩ := Nat.exists_eq_add_of_le hfuel
    exact ⟨_, left, by omega, fun _ => rfl,
      readContent_plain (plain_of_mem_utf8EncodeChar hlow hquote hslash)⟩
  | short h =>
    obtain ⟨left, rfl⟩ := Nat.exists_eq_add_of_le' (Nat.le_of_succ_le hfuel)
    exact ⟨_, left, by simp, fun _ => rfl, readContent_escape (readEscape_short h)⟩
  | unit h =>
    obtain ⟨left, rfl⟩ := Nat.exists_eq_add_of_le' (Nat.le_trans (Nat.le_add_left 1 _) hfuel)
    cases keep with
    | true =>
      exact ⟨_, left, by simp, fun _ => rfl, readContent_escape (readEscape_unit h)⟩
    | false =>
      exact ⟨[], left, by simp, nofun, readContent_escape (readEscape_skip h)⟩
  | @pair high low o o' h h' hhigh hlow hc =>
    -- One escape where it is kept, but two where it is passed over.
    obtain ⟨left, rfl⟩ := Nat.exists_eq_add_of_le' (Nat.le_trans (Nat.le_add_left 2 _) hfuel)
    cases keep with
    | true =>
      refine ⟨_, left + 1, by simp; omega, fun _ => rfl, ?_⟩
      rw [List.append_assoc]
      exact readContent_escape (readEscape_pair h h' hhigh hlow hc)
    | false =>
      refine ⟨[], left, by simp, nofun, ?_⟩
      rw [List.append_assoc, List.cons_append, readContent_escape (readEscape_skip h),
        List.cons_append, readContent_escape (readEscape_skip h')]
      exact contentAfter_append [] [] _

/-- The content of a string is taken up to its closing quote, and is the text if it is kept. -/
theorem readContent_append {t : Text} (h : SpellsText t o) (hfuel : o.length < fuel) :
    ∃ content, readContent keep fuel (o ++ 34 :: rest) = .ok (content, rest) ∧
      (keep = true → content = Octets.ofText t) := by
  -- An escape has more octets than it uses up fuel, so that only a bound on the fuel carries over.
  induction h generalizing fuel with
  | nil =>
    obtain ⟨left, rfl⟩ := Nat.exists_eq_add_one_of_ne_zero (Nat.ne_of_gt hfuel)
    exact ⟨[], rfl, fun _ => rfl⟩
  | @cons c t o o' h h' ih =>
    rw [List.length_append] at hfuel
    have hlength : o.length ≤ fuel := by omega
    obtain ⟨part, left, hleft, hpart, hread⟩ :=
      readContent_char keep (o' ++ 34 :: rest) h hlength
    have hmore : o'.length < left := by omega
    obtain ⟨content, hmore, hcontent⟩ := ih hmore
    refine ⟨part ++ content, ?_, ?_⟩
    · rw [List.append_assoc, hread, hmore]
      rfl
    · intro hkeep
      rw [hpart hkeep, hcontent hkeep, Octets.ofText_eq_flatMap, Octets.ofText_eq_flatMap,
        List.flatMap_cons]

theorem readContent_of_spellsString (keep : Bool) (rest : Octets) {s : String}
    (h : SpellsString s o) :
    ∃ content, readContent keep (o ++ rest).length ((o ++ rest).drop 1) = .ok (content, rest) ∧
      (keep = true → content = Octets.ofText s.toList) := by
  obtain @⟨o, h⟩ := h
  rw [List.append_assoc]
  refine readContent_append h ?_
  rw [List.length_append, List.length_cons]
  omega

theorem readString_append {s : String} (h : SpellsString s o) :
    readString (o ++ rest) = .ok (s, rest) := by
  obtain ⟨content, hread, hcontent⟩ := readContent_of_spellsString true rest h
  rw [readString, hread, ok_bind, hcontent rfl]
  dsimp only
  rw [Octets.toString?_ofText, String.ofList_toList]

theorem skipString_append {s : String} (h : SpellsString s o) :
    skipString (o ++ rest) = .ok rest := by
  obtain ⟨content, hread, -⟩ := readContent_of_spellsString false rest h
  rw [skipString, hread, ok_bind]

/-! ## Items and members -/

variable {items texts : List Octets} {members : List (String × Octets)}

theorem nextItem_append (h : IsLead first a) (hb : isBlank b = false) (hclose : b ≠ 93) :
    nextItem first (a ++ b :: rest) = .ok (true, b :: rest) := by
  cases h with
  | first h =>
    rw [nextItem, peek_append h hb, ok_bind]
    simp [hclose]
  | next h h' =>
    rw [List.append_assoc, nextItem, List.cons_append, peek_append h rfl, ok_bind]
    simp [peek_append h' hb, ok_bind, hclose]

theorem nextItem_close (h : IsBlanks blanks) :
    nextItem first (blanks ++ 93 :: rest) = .ok (false, rest) := by
  rw [nextItem, peek_append h rfl, ok_bind]
  simp

theorem nextMember_append (h : IsLead first a) {name : String} (hname : SpellsString name o) :
    nextMember first (a ++ (o ++ rest)) = .ok (true, o ++ rest) := by
  have hquote : isBlank 34 = false := rfl
  obtain ⟨-⟩ := hname
  cases h with
  | first h =>
    rw [List.append_assoc, List.cons_append, nextMember, peek_append h hquote, ok_bind]
    rfl
  | next h h' =>
    simp only [List.append_assoc, List.cons_append]
    rw [nextMember, peek_append h rfl, ok_bind]
    simp [peek_append h' hquote, ok_bind]

theorem nextMember_close (h : IsBlanks blanks) :
    nextMember first (blanks ++ 125 :: rest) = .ok (false, rest) := by
  rw [nextMember, peek_append h rfl, ok_bind]
  simp

/-- What stands behind an item does not go on with a number. -/
theorem endsNumber_of_isListed (h : IsListed false items o) (hrest : EndsNumber rest) :
    EndsNumber (o ++ rest) := by
  cases h with
  | nil h => exact endsNumber_append h hrest
  | cons h h' =>
    cases h with
    | next h h' =>
      simp only [List.append_assoc, List.cons_append]
      apply endsNumber_append h
      intro b hb
      obtain rfl : 44 = b := by simpa using hb
      decide

theorem endsNumber_close (hmark : mark = 93 ∨ mark = 125) : EndsNumber (mark :: rest) := by
  intro b hb
  obtain rfl : mark = b := by simpa using hb
  rcases hmark with rfl | rfl
  all_goals decide

/-- A number starts with its sign or with a digit. -/
def StartsNumber (b : UInt8) : Prop :=
  b = 45 ∨ isDigit b = true

theorem StartsNumber.ne (h : StartsNumber b) (hmark : mark ≠ 45 ∧ isDigit mark = false) :
    b ≠ mark := by
  rcases h with rfl | h
  · exact hmark.1.symm
  · exact ne_of_isDigit h hmark.2

theorem StartsNumber.isBlank (h : StartsNumber b) : isBlank b = false := by
  rcases h with rfl | h
  · rfl
  · exact isBlank_of_isDigit h

theorem SpellsNumber.exists_cons {n : NumberText} (h : SpellsNumber n o) :
    ∃ b more, o = b :: more ∧ StartsNumber b := by
  obtain ⟨⟨hdigits, -⟩, -, -⟩ := h
  obtain ⟨b, more, hwhole, hb⟩ := hdigits.exists_cons
  rw [hwhole]
  cases n.negative with
  | true => exact ⟨45, _, rfl, .inl rfl⟩
  | false => exact ⟨b, _, rfl, .inr hb⟩

/-- No value starts with a blank or with a bracket that closes an array. -/
theorem IsValue.exists_cons (h : IsValue o) :
    ∃ b more, o = b :: more ∧ isBlank b = false ∧ b ≠ 93 := by
  cases h with
  | word h =>
    rcases h with rfl | rfl | rfl
    all_goals exact ⟨_, _, rfl, rfl, by decide⟩
  | number h =>
    obtain ⟨b, more, rfl, hb⟩ := h.exists_cons
    exact ⟨_, _, rfl, hb.isBlank, hb.ne (by decide)⟩
  | string h =>
    obtain ⟨h⟩ := h
    exact ⟨_, _, rfl, rfl, by decide⟩
  | array h =>
    obtain ⟨h⟩ := h
    exact ⟨_, _, rfl, rfl, by decide⟩
  | object h =>
    obtain ⟨-, h⟩ := h
    exact ⟨_, _, rfl, rfl, by decide⟩

/-! ## Passing over values -/

/-- The text is passed over as a value. -/
def IsSkipped (o : Octets) : Prop :=
  ∀ {fuel : Nat} {rest : Octets}, o.length ≤ fuel → EndsNumber rest →
    skipValue fuel (o ++ rest) = .ok rest

theorem skipValue_blanks (h : IsBlanks before) (fuel : Nat) (o : Octets) :
    skipValue fuel (before ++ o) = skipValue fuel o := by
  cases fuel with
  | zero => rfl
  | succ fuel => rw [skipValue, skipValue, peek_blanks h]

/-- One unit of fuel is used up for the first octet. -/
theorem isSkipped_of_cons
    (h : ∀ {fuel : Nat} {rest : Octets}, o.length ≤ fuel → EndsNumber rest →
      skipValue (fuel + 1) (b :: (o ++ rest)) = .ok rest) : IsSkipped (b :: o) := by
  intro fuel rest hfuel hrest
  obtain ⟨fuel, rfl⟩ := Nat.exists_eq_add_of_le' (Nat.le_trans (Nat.le_add_left 1 _) hfuel)
  exact h (Nat.le_of_succ_le_succ hfuel) hrest

theorem skipItems_append (h : IsListed first items o)
    (hitems : ∀ item ∈ items, IsValue item ∧ IsSkipped item) (hfuel : o.length < fuel) :
    skipItems fuel first (o ++ 93 :: rest) = .ok rest := by
  induction h generalizing fuel with
  | nil h =>
    obtain ⟨fuel, rfl⟩ := Nat.exists_eq_add_one_of_ne_zero (Nat.ne_zero_of_lt hfuel)
    rw [skipItems, nextItem_close h]
    rfl
  | @cons first lead item o items h h' ih =>
    obtain ⟨fuel, rfl⟩ := Nat.exists_eq_add_one_of_ne_zero (Nat.ne_zero_of_lt hfuel)
    obtain ⟨hvalue, hskip⟩ := hitems item List.mem_cons_self
    obtain ⟨b, more, rfl, hb, hclose⟩ := hvalue.exists_cons
    -- The item has an octet at least, and so what follows it is shorter.
    simp only [List.length_append] at hfuel
    have hlength : (b :: more).length ≤ fuel := by omega
    have hshorter : o.length < fuel := by
      rw [List.length_cons] at hfuel
      omega
    have hends : EndsNumber (o ++ 93 :: rest) :=
      endsNumber_of_isListed h' (endsNumber_close (.inl rfl))
    have hitem := hskip hlength hends
    have hrest := ih (fun item hitem => hitems item (List.mem_cons_of_mem _ hitem)) hshorter
    rw [List.cons_append] at hitem
    simp only [List.append_assoc, List.cons_append]
    rw [skipItems, nextItem_append h hb hclose, ok_bind]
    dsimp only
    rw [hitem, ok_bind, hrest]
    rfl

theorem IsMember.length_lt {name : String} {value : Octets} (h : IsMember name value o) :
    value.length < o.length := by
  obtain ⟨-, -, -⟩ := h
  simp only [List.length_append, List.length_cons]
  omega

theorem skipMembers_append (h : IsListed first texts o)
    (hmembers : List.Forall₂ (fun m text => IsMember m.1 m.2 text) members texts)
    (hvalues : ∀ m ∈ members, IsSkipped m.2) (hfuel : o.length < fuel) :
    skipMembers fuel first (o ++ 125 :: rest) = .ok rest := by
  induction h generalizing fuel members with
  | nil h =>
    obtain ⟨fuel, rfl⟩ := Nat.exists_eq_add_one_of_ne_zero (Nat.ne_zero_of_lt hfuel)
    rw [skipMembers, nextMember_close h]
    rfl
  | @cons first lead text o texts h h' ih =>
    obtain ⟨fuel, rfl⟩ := Nat.exists_eq_add_one_of_ne_zero (Nat.ne_zero_of_lt hfuel)
    obtain _ | @⟨⟨name, value⟩, _, members, _, hmember, hmembers⟩ := hmembers
    have hlt := hmember.length_lt
    simp only [List.length_append] at hfuel
    dsimp only at hmember hlt
    have hlength : value.length ≤ fuel := by omega
    have hshorter : o.length < fuel := by omega
    have hskip : IsSkipped value := hvalues (name, value) List.mem_cons_self
    have hrest := ih hmembers (fun m hm => hvalues m (List.mem_cons_of_mem _ hm)) hshorter
    have hends : EndsNumber (o ++ 125 :: rest) :=
      endsNumber_of_isListed h' (endsNumber_close (.inr rfl))
    obtain @⟨spelled, before, after, hname, hbefore, hafter⟩ := hmember
    have hvalue := hskip hlength hends
    simp only [List.append_assoc, List.cons_append]
    rw [skipMembers, nextMember_append h hname, ok_bind]
    dsimp only
    rw [skipString_append hname, ok_bind, punctuation_append hbefore rfl, ok_bind,
      skipValue_blanks hafter, hvalue, ok_bind, hrest]
    rfl

theorem skipNumber_append {n : NumberText} (h : SpellsNumber n o) (hrest : EndsNumber rest) :
    skipNumber (o ++ rest) = .ok rest := by
  rw [skipNumber, readNumberText_append h hrest]

theorem isSkipped_word (h : o = wordNull ∨ o = wordTrue ∨ o = wordFalse) : IsSkipped o := by
  rcases h with rfl | rfl | rfl
  all_goals
    apply isSkipped_of_cons
    intro fuel rest hfuel hrest
    rw [skipValue, peek_cons rfl, ok_bind]
  · change (readScalar 110 (wordNull ++ rest) >>= _) = _
    rw [readScalar, if_pos (by decide), expect_append]
    rfl
  · change (readScalar 116 (wordTrue ++ rest) >>= _) = _
    rw [readScalar, if_neg (by decide), if_pos (by decide), expect_append]
    rfl
  · change (readScalar 102 (wordFalse ++ rest) >>= _) = _
    rw [readScalar, if_neg (by decide), if_neg (by decide), if_pos (by decide), expect_append]
    rfl

theorem isSkipped_number {n : NumberText} (h : SpellsNumber n o) : IsSkipped o := by
  obtain ⟨b, more, rfl, hb⟩ := h.exists_cons
  apply isSkipped_of_cons
  intro fuel rest hfuel hrest
  have hskip := skipNumber_append h hrest
  rw [List.cons_append] at hskip
  have hsquare : b ≠ 91 := hb.ne (by decide)
  have hbrace : b ≠ 123 := hb.ne (by decide)
  have hquote : b ≠ 34 := hb.ne (by decide)
  rw [skipValue, peek_cons hb.isBlank, ok_bind]
  unfold StartsNumber at hb
  simp [hsquare, hbrace, hquote, hb, hskip]

theorem isSkipped_string {s : String} (h : SpellsString s o) : IsSkipped o := by
  have hskip : ∀ rest, skipString (o ++ rest) = .ok rest := fun _ => skipString_append h
  obtain ⟨-⟩ := h
  apply isSkipped_of_cons
  intro fuel rest hfuel hrest
  rw [skipValue, peek_cons rfl, ok_bind]
  exact hskip rest

theorem isSkipped_array (h : IsArray items o)
    (hitems : ∀ item ∈ items, IsValue item ∧ IsSkipped item) : IsSkipped o := by
  obtain ⟨h⟩ := h
  rw [List.cons_append]
  apply isSkipped_of_cons
  intro fuel rest hfuel hrest
  rw [List.length_append, List.length_singleton] at hfuel
  rw [List.append_assoc, skipValue, peek_cons rfl, ok_bind]
  exact skipItems_append h hitems hfuel

theorem isSkipped_object (h : IsObject members o) (hvalues : ∀ m ∈ members, IsSkipped m.2) :
    IsSkipped o := by
  obtain ⟨hmembers, h⟩ := h
  rw [List.cons_append]
  apply isSkipped_of_cons
  intro fuel rest hfuel hrest
  rw [List.length_append, List.length_singleton] at hfuel
  rw [List.append_assoc, skipValue, peek_cons rfl, ok_bind]
  exact skipMembers_append h hmembers hvalues hfuel

/-- **Passing over a value.** Whatever its nesting, a value that nobody needs is passed over. -/
theorem isSkipped_of_isValue (h : IsValue o) : IsSkipped o := by
  induction h with
  | word h => exact isSkipped_word h
  | number h => exact isSkipped_number h
  | string h => exact isSkipped_string h
  | array h hitems ih =>
    exact isSkipped_array h fun item hitem => ⟨hitems item hitem, ih item hitem⟩
  | object h hmembers ih => exact isSkipped_object h ih

end Json

end Courier
