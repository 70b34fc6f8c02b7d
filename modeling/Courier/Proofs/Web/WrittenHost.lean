import Courier.Proofs.Web.Site

/-!
# Written hosts

A host that was read is read back from its written form as the same host: a domain as it is, an
IPv4 address from its four numbers, and an IPv6 address from its pieces, in which one gap at most
stands for zeros. A domain is an exception where one of its labels is so long in ASCII that it is
not read.
-/

namespace Courier.Web

variable {t : Text} {c : Char} {n : Nat} {host : Host} {list pieces : List Nat} {dotted : Bool}

/-! ## Domains -/

namespace Host

/-- A plain name is read as what it is, if its labels go together. -/
theorem isNamed_self (hplain : t.all Label.isPlain = true)
    (hallowed : ∀ c ∈ t, isForbidden c = false) (hne : t ≠ [])
    (hlabels : Label.areLabels (Text.pieces (· == '.') t) = true) : IsNamed t t := by
  have hpercent : '%' ∉ t := fun hmem => absurd (hallowed '%' hmem) (by decide)
  refine ⟨fun hopen => ?_, ?_, hallowed, hne⟩
  · exact absurd (hallowed '[' (List.mem_of_mem_head? hopen)) (by decide)
  · rw [name?_eq hpercent, Label.name?_of_isPlain hplain, if_pos hlabels]

end Host

/-! ## Numbers as labels -/

namespace Label

theorem direction_digitChar : ∀ d < 10, direction (Nat.digitChar d) = .european := by
  decide +kernel

theorem isPlain_ofNat (n : Nat) : (Text.ofNat n).all isPlain = true :=
  List.all_eq_true.2 fun _ hc => isPlain_of_isDigit (Text.isDigit_of_mem_ofNat hc)

theorem decode?_ofNat (n : Nat) : decode? (Text.ofNat n) = some (Text.ofNat n) := by
  have hmark : Text.after? codedMark (Text.ofNat n) = none := by
    refine Option.eq_none_iff_forall_ne_some.2 fun rest hafter => ?_
    have hx : 'x' ∈ Text.ofNat n := by
      rw [Text.after?_eq_some_iff.1 hafter]
      exact List.mem_append_left rest (by decide)
    exact absurd (Text.isDigit_of_mem_ofNat hx) (by decide)
  rw [decode?, hmark, isPlain_ofNat]
  rfl

theorem isRightward_ofNat (n : Nat) : isRightward (Text.ofNat n) = false := by
  unfold isRightward
  rw [List.any_eq_false]
  intro c hc
  obtain ⟨d, hd, rfl⟩ := exists_digitChar_of_mem_toDigits (by omega) hc
  rw [direction_digitChar d hd]
  decide

/-- Numbers are labels. -/
theorem areLabels_ofNat (list : List Nat) : areLabels (list.map Text.ofNat) = true := by
  have hdecode : (list.map Text.ofNat).mapM decode? = some (list.map Text.ofNat) := by
    induction list with
    | nil => rfl
    | cons n rest ih =>
      rw [List.map_cons, List.mapM_cons, decode?_ofNat, ih]
      rfl
  have hleft : (list.map Text.ofNat).any isRightward = false := by
    rw [List.any_map, List.any_eq_false]
    intro n _
    simp [isRightward_ofNat]
  rw [areLabels, hdecode, Option.any_some, directionsFit, hleft]
  rfl

end Label

/-! ## IPv4 -/

namespace Ipv4

theorem readPart?_ofNat : ∀ n < 256, readPart? (Text.ofNat n) = some n := by
  decide +kernel

theorem lt_of_parse {n : Nat} (h : parse t = .ok n) : n < Nat.pow 256 4 := by
  unfold parse at h
  split at h
  · cases h
  split at h
  · cases h
  next last before _ =>
  dsimp only at h
  split at h
  · cases h
  next hsmall =>
  cases h
  generalize before.reverse = octets at hsmall ⊢
  simp only [Bool.or_eq_true, decide_eq_true_eq, not_or, Nat.not_lt, Nat.not_le, Bool.not_eq_true,
    List.any_eq_false] at hsmall
  obtain ⟨⟨hlength, hlast⟩, hoctets⟩ := hsmall
  rcases octets with _ | ⟨a, _ | ⟨b, _ | ⟨c, _ | ⟨d, rest⟩⟩⟩⟩
  · simpa using hlast
  · simp at hlast hoctets ⊢
    omega
  · simp at hlast hoctets ⊢
    omega
  · simp at hlast hoctets ⊢
    omega
  · simp only [List.length_cons] at hlength
    omega

/-- The numbers of the dotted form. -/
def octets (n : Nat) : List Nat :=
  [n / Nat.pow 256 3 % 256, n / Nat.pow 256 2 % 256, n / 256 % 256, n % 256]

theorem lt_of_mem_octets {n k : Nat} (h : k ∈ octets n) : k < 256 := by
  simp only [octets, List.mem_cons, List.not_mem_nil, or_false] at h
  omega

theorem toText_eq (n : Nat) : toText n = ['.'].intercalate ((octets n).map Text.ofNat) := rfl

theorem pieces_toText (n : Nat) :
    Text.pieces (· == '.') (toText n) = (octets n).map Text.ofNat := by
  rw [toText_eq]
  apply Text.pieces_intercalate rfl (by simp [octets])
  intro t ht c hc
  obtain ⟨k, -, rfl⟩ := List.mem_map.1 ht
  rw [beq_eq_false_iff_ne]
  rintro rfl
  exact absurd (Text.isDigit_of_mem_ofNat hc) (by decide)

theorem parts_toText (n : Nat) : parts (toText n) = (octets n).map Text.ofNat := by
  have hlast : (((octets n).map Text.ofNat).getLast? == some []) = false := by
    simp [octets, Text.ofNat_ne_nil]
  simp only [parts, pieces_toText, hlast, Bool.false_eq_true, if_false]

theorem endsInNumber_toText (n : Nat) : endsInNumber (toText n) = true := by
  have hlast : ((octets n).map Text.ofNat).getLast? = some (Text.ofNat (n % 256)) := by
    simp [octets]
  have hdigits : (Text.ofNat (n % 256)).all Char.isDigit = true :=
    List.all_eq_true.2 fun c hc => Text.isDigit_of_mem_ofNat hc
  simp only [endsInNumber, parts_toText, hlast]
  simp [Text.ofNat_ne_nil, hdigits]

theorem mapM_readPart? {list : List Nat} (h : ∀ k ∈ list, k < 256) :
    (list.map Text.ofNat).mapM readPart? = some list := by
  induction list with
  | nil => rfl
  | cons k rest ih =>
    rw [List.map_cons, List.mapM_cons, readPart?_ofNat k (h k List.mem_cons_self),
      ih fun j hj => h j (List.mem_cons_of_mem k hj)]
    rfl

/-- An IPv4 address is read back from its dotted form. -/
theorem parse_toText {n : Nat} (h : n < Nat.pow 256 4) : parse (toText n) = .ok n := by
  have hread : ((octets n).map Text.ofNat).mapM readPart? = some (octets n) :=
    mapM_readPart? fun k hk => lt_of_mem_octets hk
  have hsmall : n < 4294967296 := h
  unfold parse
  rw [parts_toText, hread]
  simp only [octets, List.reverse_cons, List.reverse_nil, List.nil_append, List.cons_append,
    List.length_cons, List.length_nil, List.foldl_cons, List.foldl_nil, List.any_cons, List.any_nil]
  rw [if_neg, Except.ok.injEq]
  · simp
    omega
  · simp
    omega

theorem toText_plain {n : Nat} :
    ∀ c ∈ toText n, Label.isPlain c = true ∧ Host.isForbidden c = false := by
  intro c hc
  rcases Host.isDigit_of_mem_ipv4 hc with rfl | hdigit
  · decide
  · exact ⟨Label.isPlain_of_isDigit hdigit, Host.isForbidden_of_isDigit hdigit⟩

theorem toText_ne_nil (n : Nat) : toText n ≠ [] := by
  intro hnil
  have hnumber := endsInNumber_toText n
  rw [hnil] at hnumber
  exact absurd hnumber (by decide)

theorem areLabels_toText (n : Nat) : Label.areLabels (Text.pieces (· == '.') (toText n)) = true := by
  rw [pieces_toText]
  exact Label.areLabels_ofNat _

theorem isNamed_toText (n : Nat) : Host.IsNamed (toText n) (toText n) :=
  Host.isNamed_self (List.all_eq_true.2 fun c hc => (toText_plain c hc).1)
    (fun c hc => (toText_plain c hc).2) (toText_ne_nil n) (areLabels_toText n)

end Ipv4

/-! ## IPv6 -/

namespace Ipv6

theorem hexDigitValue_lt (c : Char) : hexDigitValue c < 16 := by
  unfold hexDigitValue
  split
  · next hdigit =>
    simp only [Char.isDigit, Bool.and_eq_true, decide_eq_true_eq, UInt32.le_iff_toNat_le] at hdigit
    have hle : c.toNat ≤ 57 := hdigit.2
    have hzero : '0'.toNat = 48 := rfl
    omega
  split
  · next hlower =>
    simp only [Bool.and_eq_true, decide_eq_true_eq] at hlower
    have hle : c.toNat ≤ 102 := hlower.2
    have ha : 'a'.toNat = 97 := rfl
    omega
  split
  · next hupper =>
    simp only [Bool.and_eq_true, decide_eq_true_eq] at hupper
    have hle : c.toNat ≤ 70 := hupper.2
    have ha : 'A'.toNat = 65 := rfl
    omega
  · omega

theorem lt_of_readPiece? (h : readPiece? t = some n) : n < 65536 := by
  unfold readPiece? at h
  split at h
  · next hall =>
    cases h
    simp only [ne_eq, decide_not, Bool.and_eq_true, Bool.not_eq_true', decide_eq_false_iff_not,
      decide_eq_true_eq, List.all_eq_true] at hall
    obtain ⟨⟨-, hlength⟩, -⟩ := hall
    calc Text.digitsValue 16 t < Nat.pow 16 t.length :=
          Text.digitsValue_lt fun c _ => hexDigitValue_lt c
      _ ≤ Nat.pow 16 4 := Nat.pow_le_pow_right (by omega) hlength
  · cases h

theorem lt_of_readDotted? (h : readDotted? t = some list) : ∀ n ∈ list, n < 65536 := by
  unfold readDotted? at h
  split at h
  · next a b c d hpieces =>
    split at h
    · next hall =>
      cases h
      simp only [List.all_cons, List.all_nil, Bool.and_true, Bool.and_eq_true,
        decide_eq_true_eq] at hall
      obtain ⟨⟨-, ha⟩, ⟨-, hb⟩, ⟨-, hc⟩, -, hd⟩ := hall
      simp only [List.mem_cons, List.not_mem_nil, or_false]
      rintro n (rfl | rfl)
      · omega
      · omega
    · cases h
  · cases h

theorem lt_of_readPieces? {texts : List Text} (h : readPieces? dotted texts = some list) :
    ∀ n ∈ list, n < 65536 := by
  fun_induction readPieces? dotted texts generalizing list with
  | case1 =>
    cases h
    exact fun n hn => (nomatch hn)
  | case2 last hdotted => exact lt_of_readDotted? h
  | case3 last hplain =>
    obtain ⟨n, hn, rfl⟩ := Option.map_eq_some_iff.1 h
    simpa using lt_of_readPiece? hn
  | case4 first rest hrest ih =>
    simp only [Option.bind_eq_bind, Option.bind_eq_some_iff] at h
    obtain ⟨n, hn, more, hmore, h⟩ := h
    cases h
    exact List.forall_mem_cons.2 ⟨lt_of_readPiece? hn, ih hmore⟩

theorem lt_of_readSide? (h : readSide? dotted t = some list) : ∀ n ∈ list, n < 65536 := by
  unfold readSide? at h
  split at h
  · cases h
    exact fun n hn => (nomatch hn)
  · exact lt_of_readPieces? h

/-- The eight numbers of an address. -/
structure ArePieces (pieces : List Nat) : Prop where
  length : pieces.length = 8
  small : ∀ n ∈ pieces, n < 65536

theorem arePieces_of_parse (h : parse t = .ok pieces) : ArePieces pieces := by
  unfold parse at h
  dsimp only at h
  split at h
  · next result hread =>
    cases h
    split at hread
    · obtain ⟨hside, hlength⟩ := Option.mem_filter_iff.1 hread
      exact ⟨by simpa using hlength, lt_of_readSide? hside⟩
    · simp only [Option.bind_eq_bind, Option.bind_eq_some_iff] at hread
      obtain ⟨left, hleft, right, hright, hread⟩ := hread
      split at hread
      · cases hread
        refine ⟨?_, fun n hn => ?_⟩
        · simp only [List.length_append, List.length_replicate]
          omega
        · simp only [List.mem_append] at hn
          rcases hn with (hn | hn) | hn
          · exact lt_of_readSide? hleft n hn
          · rw [List.eq_of_mem_replicate hn]
            omega
          · exact lt_of_readSide? hright n hn
      · cases hread
  · cases h

theorem isHexDigit_of_mem_pieceText (h : c ∈ pieceText n) : isHexDigit c = true := by
  obtain ⟨d, hd, rfl⟩ := exists_digitChar_of_mem_toDigits (by omega) h
  exact isHexDigit_digitChar d hd

theorem not_mem_pieceText (h : isHexDigit c = false) : c ∉ pieceText n := by
  intro hc
  rw [isHexDigit_of_mem_pieceText hc] at h
  cases h

theorem pieceText_ne_nil : pieceText n ≠ [] :=
  List.ne_nil_of_length_pos Nat.length_toDigits_pos

theorem readPiece?_pieceText (h : n < 65536) : readPiece? (pieceText n) = some n := by
  have hlength : (pieceText n).length ≤ 4 :=
    (Nat.length_toDigits_le_iff (by omega) (by omega)).2 h
  have hall : (pieceText n).all isHexDigit = true :=
    List.all_eq_true.2 fun c hc => isHexDigit_of_mem_pieceText hc
  have hread : (decide (pieceText n ≠ []) && decide ((pieceText n).length ≤ 4)
      && (pieceText n).all isHexDigit) = true := by
    simp [pieceText_ne_nil, hlength, hall]
  rw [readPiece?, if_pos hread]
  exact congrArg some (Text.digitsValue_toDigits (by omega) (by omega) n)

theorem readPieces?_map (h : ∀ n ∈ list, n < 65536) :
    readPieces? dotted (list.map pieceText) = some list := by
  induction list with
  | nil => rfl
  | cons n rest ih =>
    have hn := readPiece?_pieceText (h n List.mem_cons_self)
    cases rest with
    | nil =>
      have hplain : (pieceText n).contains '.' = false := by
        simpa using not_mem_pieceText (by decide)
      rw [List.map_cons, List.map_nil, readPieces?, hplain, hn, Bool.and_false]
      rfl
    | cons m rest =>
      have hrest := ih fun k hk => h k (List.mem_cons_of_mem n hk)
      rw [List.map_cons] at hrest ⊢
      rw [List.map_cons, readPieces?, hn, hrest]
      · rfl
      · exact List.cons_ne_nil _ _

/-- The pieces between colons. -/
def joined (list : List Nat) : Text :=
  [':'].intercalate (list.map pieceText)

theorem joined_cons_cons {m : Nat} :
    joined (n :: m :: list) = pieceText n ++ ':' :: joined (m :: list) := by
  simp [joined, List.intercalate_cons_cons]

theorem exists_joined_cons (n : Nat) (list : List Nat) :
    ∃ d rest, joined (n :: list) = d :: rest ∧ d ≠ ':' := by
  obtain ⟨d, rest, hdigits⟩ := List.exists_cons_of_ne_nil (pieceText_ne_nil (n := n))
  have hd : d ≠ ':' := by
    rintro rfl
    exact not_mem_pieceText (n := n) (c := ':') (by decide) (hdigits ▸ List.mem_cons_self)
  cases list with
  | nil => exact ⟨d, rest, by simpa [joined] using hdigits, hd⟩
  | cons m more => exact ⟨d, _, by rw [joined_cons_cons, hdigits]; rfl, hd⟩

theorem readSide?_joined (h : ∀ n ∈ list, n < 65536) :
    readSide? dotted (joined list) = some list := by
  cases list with
  | nil => rfl
  | cons n rest =>
    have hempty : (joined (n :: rest)).isEmpty = false := by
      obtain ⟨d, more, htext, -⟩ := exists_joined_cons n rest
      rw [htext]
      rfl
    have hpieces : Text.pieces (· == ':') (joined (n :: rest)) = (n :: rest).map pieceText := by
      apply Text.pieces_intercalate rfl (by simp)
      intro t ht c hc
      obtain ⟨k, -, rfl⟩ := List.mem_map.1 ht
      rw [beq_eq_false_iff_ne]
      rintro rfl
      exact not_mem_pieceText (by decide) hc
    rw [readSide?, hempty, hpieces, if_neg Bool.false_ne_true, readPieces?_map h]

theorem cutAtGap_append {a rest : Text} (h : ':' ∉ a) :
    cutAtGap (a ++ rest) = (cutAtGap rest).map fun (x, y) => (a ++ x, y) := by
  induction a with
  | nil => simp
  | cons c more ih =>
    rw [List.mem_cons, not_or] at h
    have hstep : cutAtGap (c :: (more ++ rest)) =
        (cutAtGap (more ++ rest)).map fun (x, y) => (c :: x, y) := by
      rw [cutAtGap]
      rintro _ rfl
      exact absurd rfl h.1
    rw [List.cons_append, hstep, ih h.2, Option.map_map]
    rfl

theorem cutAtGap_colon {rest : Text} (h : rest.head? ≠ some ':') :
    cutAtGap (':' :: rest) = (cutAtGap rest).map fun (x, y) => (':' :: x, y) := by
  rw [cutAtGap]
  rintro more - rfl
  exact h rfl

/-- The colons between pieces are no gap. -/
theorem cutAtGap_joined (hne : list ≠ []) :
    cutAtGap (joined list ++ t) = (cutAtGap t).map fun (x, y) => (joined list ++ x, y) := by
  induction list with
  | nil => exact absurd rfl hne
  | cons n rest ih =>
    cases rest with
    | nil =>
      have hone : joined [n] = pieceText n := by simp [joined]
      rw [hone]
      exact cutAtGap_append (not_mem_pieceText (by decide))
    | cons m rest =>
      have hhead : (joined (m :: rest) ++ t).head? ≠ some ':' := by
        obtain ⟨d, more, htext, hd⟩ := exists_joined_cons m rest
        rw [htext]
        simpa using hd
      rw [joined_cons_cons, List.append_assoc, cutAtGap_append (not_mem_pieceText (by decide)),
        List.cons_append, cutAtGap_colon hhead, ih (by simp), Option.map_map, Option.map_map]
      simp [Function.comp_def]

/-- The longest gap is a run of zeros in its place. -/
theorem longestGap_eq (index : Nat) (list : List Nat) :
    ∃ before after, list = before ++ (List.replicate (longestGap index list).2 0 ++ after) ∧
      (longestGap index list).1 = index + before.length := by
  induction list generalizing index with
  | nil => exact ⟨[], [], rfl, rfl⟩
  | cons n rest ih =>
    rw [longestGap]
    split
    · refine ⟨[], (n :: rest).dropWhile (· == 0), ?_, rfl⟩
      have hzeros : (n :: rest).takeWhile (· == 0) =
          List.replicate ((n :: rest).takeWhile (· == 0)).length 0 := by
        rw [List.eq_replicate_iff]
        refine ⟨rfl, fun k hk => ?_⟩
        simpa using List.all_eq_true.1 List.all_takeWhile k hk
      rw [← hzeros]
      exact List.takeWhile_append_dropWhile.symm
    · obtain ⟨before, after, hrest, hindex⟩ := ih (index + 1)
      refine ⟨n :: before, after, by rw [List.cons_append, ← hrest], ?_⟩
      rw [hindex, List.length_cons]
      omega

theorem parse_joined (h : ArePieces pieces) : parse (joined pieces) = .ok pieces := by
  have hnone : cutAtGap (joined pieces) = none := by
    have hne : pieces ≠ [] := by
      rintro rfl
      exact absurd h.length (by decide)
    have hcut := cutAtGap_joined (t := []) hne
    rwa [List.append_nil] at hcut
  unfold parse
  rw [hnone]
  dsimp only
  rw [readSide?_joined h.small, Option.filter_some, h.length]
  rfl

/-- A double colon stands for the zeros that are missing. -/
theorem parse_gap {before after : List Nat} {length : Nat} (hbefore : ∀ n ∈ before, n < 65536)
    (hafter : ∀ n ∈ after, n < 65536) (hgap : 0 < length)
    (hlength : before.length + (length + after.length) = 8) :
    parse (joined before ++ "::".toList ++ joined after) =
      .ok (before ++ (List.replicate length 0 ++ after)) := by
  have hcut : cutAtGap (joined before ++ "::".toList ++ joined after) =
      some (joined before, joined after) := by
    rw [List.append_assoc]
    cases before with
    | nil => rfl
    | cons n rest =>
      rw [cutAtGap_joined (List.cons_ne_nil n rest)]
      change some (joined (n :: rest) ++ [], joined after) = _
      rw [List.append_nil]
  have hroom : before.length + after.length ≤ 7 := by omega
  have hzeros : 8 - before.length - after.length = length := by omega
  unfold parse
  rw [hcut]
  dsimp only
  rw [readSide?_joined hbefore, readSide?_joined hafter]
  simp only [Option.bind_eq_bind, Option.bind_some]
  rw [if_pos hroom, hzeros, List.append_assoc]

/-- An IPv6 address is read back from its written form. -/
theorem parse_toText (h : ArePieces pieces) : parse (toText pieces) = .ok pieces := by
  obtain ⟨before, after, hpieces, hstart⟩ := longestGap_eq 0 pieces
  generalize hgap : longestGap 0 pieces = gap at hpieces hstart
  obtain ⟨start, length⟩ := gap
  dsimp only at hpieces hstart
  rw [Nat.zero_add] at hstart
  subst hstart
  unfold toText
  rw [hgap]
  dsimp only
  by_cases hshort : length < 2
  · rw [if_pos hshort]
    exact parse_joined h
  · have hbefore : pieces.take before.length = before := by
      rw [hpieces, List.take_left]
    have hafter : pieces.drop (before.length + length) = after := by
      rw [hpieces, ← List.append_assoc, List.drop_left' (by simp)]
    have hsmall := h.small
    rw [hpieces, List.forall_mem_append, List.forall_mem_append] at hsmall
    have hlength := h.length
    rw [hpieces] at hlength
    simp only [List.length_append, List.length_replicate] at hlength
    rw [if_neg hshort, hbefore, hafter]
    have hparse := parse_gap hsmall.1 hsmall.2.2 (by omega) hlength
    rw [← hpieces] at hparse
    exact hparse

end Ipv6

/-! ## Hosts -/

namespace Host

/-- A host that is written with labels that can be read. -/
def IsReadable (host : Host) : Prop :=
  Label.AreReadable host.toText

instance (host : Host) : Decidable host.IsReadable :=
  inferInstanceAs (Decidable (Label.AreReadable host.toText))

theorem isReadable_ipv6 (pieces : List Nat) : (ipv6 pieces).IsReadable := by
  have hdot : ∀ c ∈ (ipv6 pieces).toText, (c == '.') = false := by
    intro c hc
    rw [toText, List.cons_append, List.mem_cons, List.mem_append, List.mem_singleton] at hc
    rw [beq_eq_false_iff_ne]
    rintro rfl
    rcases hc with hopen | hc | hclose
    · exact absurd hopen (by decide)
    · exact absurd (isBracketedChar_of_mem_ipv6 hc) (by decide)
    · exact absurd hclose (by decide)
  intro l hl coded hafter
  rw [Text.pieces_eq_self hdot, List.mem_singleton] at hl
  subst hl
  cases hafter

/-- **Written hosts.** A host that was read is read back from its written form, if that can be
read. -/
theorem parse_toText (h : parse t = .ok host) :
    parse host.toText = if host.IsReadable then .ok host else .error .invalidDomain := by
  cases reads_of_parse h with
  | @domain name named number =>
    obtain ⟨s, -, hs⟩ := Option.bind_eq_some_iff.1 named.named
    have hpercent : '%' ∉ name := fun hmem => absurd (named.allowed '%' hmem) (by decide)
    have hself : name? name = if Label.AreReadable name then some name else none := by
      rw [name?_eq hpercent, Label.name?_self hs]
    by_cases hread : (domain name).IsReadable
    · rw [if_pos hread]
      refine parse_of_reads (.domain ⟨fun hopen => ?_, hself.trans (if_pos hread), named.allowed,
        named.nonempty⟩ number)
      exact absurd (named.allowed '[' (List.mem_of_mem_head? hopen)) (by decide)
    · rw [if_neg hread, toText, parse, hself.trans (if_neg hread)]
      rintro rest rfl
      exact absurd (named.allowed '[' List.mem_cons_self) (by decide)
  | @ipv4 name n _ _ reads =>
    have hread : (ipv4 n).IsReadable :=
      Label.areReadable_of_areLabels (Ipv4.areLabels_toText n)
    rw [if_pos hread]
    exact parse_of_reads (.ipv4 (Ipv4.isNamed_toText n) (Ipv4.endsInNumber_toText n)
      (Ipv4.parse_toText (Ipv4.lt_of_parse reads)))
  | @ipv6 _ pieces _ reads =>
    rw [if_pos (isReadable_ipv6 pieces)]
    exact parse_of_reads (.ipv6 rfl (Ipv6.parse_toText (Ipv6.arePieces_of_parse reads)))

/-- A host that was read is not written as nothing. -/
theorem toText_ne_nil (h : parse t = .ok host) : host.toText ≠ [] := by
  cases reads_of_parse h with
  | domain named => exact named.nonempty
  | ipv4 => exact Ipv4.toText_ne_nil _
  | ipv6 => exact List.cons_ne_nil _ _

end Host

end Courier.Web
