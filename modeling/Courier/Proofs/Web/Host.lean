import Courier.Proofs.Octets
import Courier.Proofs.Uri
import Courier.Proofs.Web.Label
import Courier.Uri
import Courier.Web.Host

/-!
# Names of hosts

The plain names of hosts, and where the written form of a host that was read can end.
-/

namespace Courier.Web

/-- A class of characters that holds no slash, question mark or number sign ends no authority. -/
theorem isEnd_eq_false_of {p : Char → Bool} {c : Char} (hends : "/?#".toList.all (!p ·) = true)
    (hc : p c = true) : Authority.isEnd c = false := by
  have hne : ∀ d ∈ "/?#".toList, (c == d) = false := by
    intro d hd
    rw [beq_eq_false_iff_ne]
    rintro rfl
    have hp := List.all_eq_true.1 hends c hd
    rw [hc] at hp
    cases hp
  simp only [Authority.isEnd, hne '/' (by decide), hne '?' (by decide), hne '#' (by decide),
    Bool.or_false]

/-! ## Decoding -/

/-- A character that is no part of an escape is decoded as it is. -/
theorem mem_percentDecode {t : Text} {c : Char} {b : UInt8} (hc : c ∈ t)
    (hplain : c ≠ '%' ∧ isHexDigit c = false) (hb : b ∈ Octets.ofText [c]) :
    b ∈ percentDecode t := by
  fun_induction percentDecode t with
  | case1 x y rest hdigits ih =>
    rw [Bool.and_eq_true] at hdigits
    have hne : ∀ d, isHexDigit d = true → c ≠ d := by
      rintro d hd rfl
      rw [hplain.2] at hd
      cases hd
    simp only [List.mem_cons, hplain.1, hne x hdigits.1, hne y hdigits.2, false_or] at hc
    exact List.mem_cons_of_mem _ (ih hc)
  | case2 x y rest hdigits ih =>
    rw [List.mem_cons] at hc
    exact List.mem_cons_of_mem _ (ih (hc.resolve_left hplain.1))
  | case3 d rest hother ih =>
    rcases List.mem_cons.1 hc with rfl | hc
    · exact List.mem_append_left _ hb
    · exact List.mem_append_right _ (ih hc)
  | case4 => cases hc

/-- A text without percent signs is decoded as it is. -/
theorem percentDecode_eq_ofText {t : Text} (h : '%' ∉ t) : percentDecode t = Octets.ofText t := by
  fun_induction percentDecode t with
  | case1 | case2 => exact absurd List.mem_cons_self h
  | case3 c rest hother ih =>
    rw [ih fun hmem => h (List.mem_cons_of_mem c hmem), Octets.ofText_eq_flatMap,
      Octets.ofText_eq_flatMap, Octets.ofText_eq_flatMap]
    simp
  | case4 => rfl

/-! ## Reading hosts -/

namespace Host

variable {t name : Text} {host : Host}

/-- A text without percent signs stands for the name that it is. -/
theorem name?_eq (h : '%' ∉ t) : name? t = Label.name? t := by
  rw [name?, percentDecode_eq_ofText h, Octets.toString?_ofText, Option.bind_some,
    String.toList_ofList]

/-- A text that is read as the name of a host, and that name. -/
structure IsNamed (t name : Text) : Prop where
  plain : t.head? ≠ some '['
  named : name? t = some name
  allowed : ∀ c ∈ name, isForbidden c = false
  nonempty : name ≠ []

/-- The hosts that texts are read as. -/
inductive Reads (t : Text) : Host → Prop
  | domain {name : Text} (named : IsNamed t name) (number : Ipv4.endsInNumber name = false) :
    Reads t (.domain name)
  | ipv4 {name : Text} {n : Nat} (named : IsNamed t name) (number : Ipv4.endsInNumber name = true)
    (reads : Ipv4.parse name = .ok n) : Reads t (.ipv4 n)
  | ipv6 {inner : Text} {pieces : List Nat} (text : t = '[' :: (inner ++ [']']))
    (reads : Ipv6.parse inner = .ok pieces) : Reads t (.ipv6 pieces)

theorem reads_of_parseBracketed {rest : Text} (h : parseBracketed rest = .ok host) :
    Reads ('[' :: rest) host := by
  unfold parseBracketed at h
  split at h
  · next hlast =>
    obtain ⟨inner, rfl⟩ := List.getLast?_eq_some_iff.1 (beq_iff_eq.1 hlast)
    rw [List.dropLast_concat] at h
    obtain ⟨pieces, hread, rfl⟩ := map_eq_ok.1 h
    exact .ipv6 rfl hread
  · cases h

/-- A name is an IPv4 address just if it ends in a number. -/
theorem IsNamed.parse_eq (h : IsNamed t name) :
    parse t = if Ipv4.endsInNumber name then .ipv4 <$> Ipv4.parse name else .ok (.domain name) := by
  have hallowed : ¬ name.any isForbidden = true := by simpa using h.allowed
  have hempty : ¬ name.isEmpty = true := by simpa using h.nonempty
  unfold parse
  split
  · exact absurd rfl h.plain
  · rw [h.named]
    exact (if_neg hallowed).trans (if_neg hempty)

theorem reads_of_parse (h : parse t = .ok host) : Reads t host := by
  unfold parse at h
  split at h
  · exact reads_of_parseBracketed h
  next hplain =>
  split at h
  · cases h
  next name hname =>
  split at h
  · cases h
  next hallowed =>
  split at h
  · cases h
  next hempty =>
  have hnamed : IsNamed t name := by
    refine ⟨fun hopen => ?_, hname, by simpa using hallowed, by simpa using hempty⟩
    obtain ⟨rest, rfl⟩ := List.head?_eq_some_iff.1 hopen
    exact hplain rest rfl
  split at h
  · next hnumber =>
    obtain ⟨n, hread, rfl⟩ := map_eq_ok.1 h
    exact .ipv4 hnamed hnumber hread
  · next hnumber =>
    cases h
    exact .domain hnamed (by simpa using hnumber)

theorem parse_of_reads (h : Reads t host) : parse t = .ok host := by
  cases h with
  | domain named number => rw [named.parse_eq, number, if_neg Bool.false_ne_true]
  | ipv4 named number reads =>
    rw [named.parse_eq, if_pos number, reads]
    rfl
  | ipv6 text reads =>
    subst text
    rw [parse, parseBracketed, List.getLast?_concat, List.dropLast_concat, reads]
    rfl

/-- The name of a host in ASCII is the text in lower case. -/
theorem IsNamed.eq_lower (h : IsNamed t name) (hascii : ∀ c ∈ t, c.toNat < 128)
    (hpercent : '%' ∉ t) : name = t.lower := by
  have hname := h.named
  rw [name?_eq hpercent] at hname
  exact Label.eq_lower_of_name? hascii hname

/-- A bracket in a text is in the name that it stands for. -/
theorem open_mem_of_name? (h : name? t = some name) (hmem : '[' ∈ t) : '[' ∈ name := by
  obtain ⟨s, hs, hname⟩ := Option.bind_eq_some_iff.1 h
  have hoctet : UInt8.ofNat '['.toNat ∈ percentDecode t :=
    mem_percentDecode hmem (by decide) (by decide)
  rw [← Octets.ofText_of_toString? hs, Octets.mem_ofText_iff (by decide)] at hoctet
  exact Label.stays_open.mem_name? hname hoctet (by decide)

/-- A host that was read holds no bracket, unless it starts with one. -/
theorem open_not_mem_of_parse (h : parse t = .ok host) (ht : t.head? ≠ some '[') : '[' ∉ t := by
  intro hmem
  cases reads_of_parse h with
  | domain named | ipv4 named =>
    exact absurd (named.allowed '[' (open_mem_of_name? named.named hmem)) (by decide)
  | ipv6 text => exact ht (by rw [text]; rfl)

theorem isDigit_of_mem_ipv4 {n : Nat} {c : Char} (h : c ∈ Ipv4.toText n) :
    c = '.' ∨ c.isDigit = true := by
  change c ∈ Text.ofNat _ ++ (['.'] ++ (Text.ofNat _ ++ (['.'] ++ (Text.ofNat _ ++ (['.'] ++
    (Text.ofNat _ ++ [])))))) at h
  simp only [List.mem_append, List.mem_singleton, List.not_mem_nil, or_false] at h
  rcases h with h | rfl | h | rfl | h | rfl | h
  all_goals first | exact .inl rfl | exact .inr (Text.isDigit_of_mem_ofNat h)

end Host

/-! ## Names -/

/-- A character of a host name: a letter or digit of ASCII, a hyphen or a dot. -/
def isHostNameChar (c : Char) : Bool :=
  isAsciiAlphanum c || c == '-' || c == '.'

/-- A plain name of a host. -/
structure IsHostName (name : Text) : Prop where
  nonempty : name ≠ []
  chars : name.all isHostNameChar = true

namespace IsHostName

variable {name : Text} {c : Char}

theorem isHostNameChar_of_mem (h : IsHostName name) (hc : c ∈ name) : isHostNameChar c = true :=
  List.all_eq_true.1 h.chars c hc

theorem not_mem (h : IsHostName name) (hc : isHostNameChar c = false) : c ∉ name := by
  intro hmem
  rw [h.isHostNameChar_of_mem hmem] at hc
  cases hc

theorem isEnd_eq_false (h : IsHostName name) (hc : c ∈ name) : Authority.isEnd c = false :=
  isEnd_eq_false_of (by decide) (h.isHostNameChar_of_mem hc)

theorem isVisibleChar (h : IsHostName name) (hc : c ∈ name) : IsVisibleChar c := by
  have hchar := h.isHostNameChar_of_mem hc
  simp only [isHostNameChar, Bool.or_eq_true, beq_iff_eq] at hchar
  rcases hchar with (halphanum | rfl) | rfl
  · exact isVisibleChar_of_isAsciiAlphanum halphanum
  · decide
  · decide

/-- The name of a host that is no number is the host, in lower case. -/
theorem toText_of_parse {host : Host} (h : IsHostName name)
    (hnumber : Ipv4.endsInNumber name.lower = false) (hparse : Host.parse name = .ok host) :
    host.toText = name.lower := by
  have hascii : ∀ c ∈ name, c.toNat < 128 := fun c hc =>
    Nat.lt_of_le_of_lt (toNat_of_isVisibleChar (h.isVisibleChar hc)).2 (by decide)
  have hpercent : '%' ∉ name := h.not_mem (by decide)
  cases Host.reads_of_parse hparse with
  | domain named => exact named.eq_lower hascii hpercent
  | ipv4 named number =>
    rw [named.eq_lower hascii hpercent, hnumber] at number
    cases number
  | ipv6 text =>
    refine absurd ?_ (h.not_mem (c := '[') (by decide))
    rw [text]
    exact List.mem_cons_self

end IsHostName

end Courier.Web
