import Courier.Proofs.Authority
import Courier.Proofs.Web.Reference

/-!
# Written sites

The site of a web address that was read is an authority of a request target when it is written: no
character in it ends the authority early, and host and port of the authority are those of the site.
-/

namespace Courier.Web

variable {t name : Text} {c : Char} {host : Host}

/-! ## Hosts -/

theorem exists_digitChar_of_mem_toDigits {base n : Nat} (hbase : 1 < base)
    (h : c ∈ Nat.toDigits base n) : ∃ d < base, c = Nat.digitChar d := by
  induction n using Nat.strongRecOn with
  | ind n ih =>
    rw [Nat.toDigits_eq_if hbase] at h
    split at h
    · next hlt => exact ⟨n, hlt, by simpa using h⟩
    · rcases List.mem_append.1 h with h | h
      · exact ih (n / base) (Nat.div_lt_self (by omega) hbase) h
      · exact ⟨n % base, Nat.mod_lt _ (by omega), by simpa using h⟩

theorem isHexDigit_digitChar : ∀ d < 16, isHexDigit (Nat.digitChar d) = true := by
  decide

/-- A character between the brackets of a host. -/
def isBracketedChar (c : Char) : Bool :=
  isHexDigit c || c == ':'

theorem isBracketedChar_of_mem_ipv6 {pieces : List Nat} (h : c ∈ Ipv6.toText pieces) :
    isBracketedChar c = true := by
  have hpieces : ∀ list : List Nat, c ∈ [':'].intercalate (list.map Ipv6.pieceText) →
      isBracketedChar c = true := by
    intro list hc
    rcases Text.mem_intercalate hc with rfl | ⟨t, ht, hc⟩
    · rfl
    · obtain ⟨n, -, rfl⟩ := List.mem_map.1 ht
      obtain ⟨d, hd, rfl⟩ := exists_digitChar_of_mem_toDigits (by omega) hc
      rw [isBracketedChar, isHexDigit_digitChar d hd, Bool.true_or]
  unfold Ipv6.toText at h
  split at h
  split at h
  · exact hpieces _ h
  · rcases List.mem_append.1 h with h | h
    · rcases List.mem_append.1 h with h | h
      · exact hpieces _ h
      · obtain rfl : c = ':' := by simpa using h
        rfl
    · exact hpieces _ h

theorem Host.isForbidden_of_isDigit (h : c.isDigit = true) : Host.isForbidden c = false := by
  have hne : ∀ d ∈ "%#/:<>?@[\\]^|\x7f".toList, (c == d) = false := by
    intro d hd
    rw [beq_eq_false_iff_ne]
    rintro rfl
    have hall : "%#/:<>?@[\\]^|\x7f".toList.all (!Char.isDigit ·) = true := by decide
    have hplain := List.all_eq_true.1 hall c hd
    rw [h] at hplain
    cases hplain
  have hspace : ' ' < c := by
    change (decide ('0' ≤ c) && decide (c ≤ '9')) = true at h
    rw [Bool.and_eq_true, decide_eq_true_eq] at h
    exact Std.lt_of_lt_of_le (by decide) h.1
  have hle : ¬ c ≤ ' ' := Std.not_le.2 hspace
  simp only [Host.isForbidden, Bool.or_eq_false_iff, decide_eq_false_iff_not]
  refine ⟨hle, ?_⟩
  rw [List.contains_eq_any_beq, List.any_eq_false]
  intro d hd
  simp [hne d hd]

/-- How a host that was read is written: without a forbidden character, or in brackets. -/
theorem Host.toText_cases (h : Host.parse name = .ok host) :
    (∀ c ∈ host.toText, Host.isForbidden c = false) ∨
      ∃ inner, host.toText = '[' :: inner ++ [']'] ∧ ∀ c ∈ inner, isBracketedChar c = true := by
  cases reads_of_parse h with
  | domain named => exact .inl named.allowed
  | ipv4 =>
    refine .inl fun c hc => ?_
    rcases isDigit_of_mem_ipv4 hc with rfl | hdigit
    · rfl
    · exact isForbidden_of_isDigit hdigit
  | @ipv6 _ pieces =>
    exact .inr ⟨Ipv6.toText pieces, rfl, fun c hc => isBracketedChar_of_mem_ipv6 hc⟩

theorem Host.not_mem_toText (h : Host.parse name = .ok host) (hforbidden : isForbidden c = true)
    (hbracketed : isBracketedChar c = false) (hbrackets : c ≠ '[' ∧ c ≠ ']') :
    c ∉ host.toText := by
  intro hc
  rcases toText_cases h with hplain | ⟨inner, htext, hinner⟩
  · rw [hplain c hc] at hforbidden
    cases hforbidden
  · rw [htext, List.cons_append, List.mem_cons, List.mem_append, List.mem_singleton] at hc
    rcases hc with hopen | hc | hclose
    · exact hbrackets.1 hopen
    · rw [hinner c hc] at hbracketed
      cases hbracketed
    · exact hbrackets.2 hclose

/-- A host that was read is written as authorities have their hosts. -/
theorem Host.isHostText_toText (h : Host.parse name = .ok host) :
    Authority.IsHostText host.toText := by
  rcases toText_cases h with hplain | ⟨inner, htext, hinner⟩
  · have hnone : ∀ d, isForbidden d = true → d ∉ host.toText := by
      intro d hd hmem
      rw [hplain d hmem] at hd
      cases hd
    refine .plain (hnone ':' (by decide)) fun hopen => hnone '[' (by decide) ?_
    exact List.mem_of_mem_head? hopen
  · exact .bracketed htext fun hclose => absurd (hinner ']' hclose) (by decide)

/-- A host that is written as authorities have their hosts, without a character that ends an
authority or its userinfo. -/
structure Host.IsTold (host : Host) : Prop where
  shape : Authority.IsHostText host.toText
  plain : ∀ d ∈ "/?#@".toList, d ∉ host.toText

theorem Host.isTold_of_parse (h : Host.parse name = .ok host) : host.IsTold := by
  refine ⟨isHostText_toText h, fun d hd => ?_⟩
  have hall : "/?#@".toList.all (fun d => isForbidden d && !isBracketedChar d &&
      !"[]".toList.contains d) = true := by
    decide
  have hclass := List.all_eq_true.1 hall d hd
  simp only [Bool.and_eq_true, Bool.not_eq_true', List.contains_eq_mem,
    decide_eq_false_iff_not] at hclass
  obtain ⟨⟨hforbidden, hbracketed⟩, hbrackets⟩ := hclass
  refine not_mem_toText h hforbidden hbracketed ⟨?_, ?_⟩
  · rintro rfl
    exact hbrackets (by decide)
  · rintro rfl
    exact hbrackets (by decide)

/-! ## Reading sites -/

/-- A site that tells its host when it is written, since its userinfo is escaped. -/
structure Site.IsTold (s : Site) (host : Host) : Prop where
  username : ∃ t, s.username = percentEncode isUserinfoEscaped t
  password : ∀ p ∈ s.password, ∃ t, p = percentEncode isUserinfoEscaped t
  named : s.host = some host
  told : host.IsTold

/-- A site with this host, as it is read under a special scheme. -/
structure Site.IsRead (s : Site) (host : Host) : Prop where
  username : ∃ t, s.username = percentEncode isUserinfoEscaped t
  password : ∀ p ∈ s.password, ∃ t, p = percentEncode isUserinfoEscaped t
  named : s.host = some host
  parsed : ∃ name, Host.parse name = .ok host

theorem Site.IsRead.isTold {s : Site} (h : s.IsRead host) : s.IsTold host := by
  obtain ⟨name, hname⟩ := h.parsed
  exact ⟨h.username, h.password, h.named, Host.isTold_of_parse hname⟩

variable {scheme authority start : Text} {ends : Bool} {s : Site}

/-- What is read of an authority under a special scheme: its userinfo, its host and its port. -/
theorem eq_of_readSite (hspecial : isSpecial scheme = true)
    (h : readSite scheme authority ends = .ok (s, start)) :
    ∃ host port, Host.parse (splitPort false (splitUserinfo authority).2).1 = .ok host ∧
      readPort scheme ((splitPort false (splitUserinfo authority).2).2.getD [])
        = .ok (port, start) ∧
      s = { username := ((splitUserinfo authority).1.getD ([], none)).1
            password := ((splitUserinfo authority).1.getD ([], none)).2
            host := some host
            port := port } := by
  unfold readSite at h
  split at h
  · cases h
  dsimp only at h
  obtain ⟨⟨host?, port, rest⟩, hread, h⟩ := bind_eq_ok.1 h
  unfold readHostAndPort at hread
  simp only [hspecial, Bool.true_or, if_true] at hread
  split at hread
  · cases hread
  obtain ⟨host, hhost, hread⟩ := bind_eq_ok.1 hread
  obtain ⟨⟨port', start'⟩, hport, hread⟩ := bind_eq_ok.1 hread
  cases hread
  dsimp only at h
  split at h
  · cases h
  · cases h
    exact ⟨host, port, hhost, hport, rfl⟩

theorem escaped_of_splitUserinfo (authority : Text) :
    (∃ t, ((splitUserinfo authority).1.getD ([], none)).1 = percentEncode isUserinfoEscaped t) ∧
      ∀ p ∈ ((splitUserinfo authority).1.getD ([], none)).2,
        ∃ t, p = percentEncode isUserinfoEscaped t := by
  unfold splitUserinfo
  split
  · refine ⟨⟨_, rfl⟩, fun p hp => ?_⟩
    obtain ⟨t, -, rfl⟩ := Option.map_eq_some_iff.1 hp
    exact ⟨t, rfl⟩
  · exact ⟨⟨[], rfl⟩, fun p hp => (nomatch hp)⟩

theorem isRead_of_readSite (hspecial : isSpecial scheme = true)
    (h : readSite scheme authority ends = .ok (s, start)) : ∃ host, s.IsRead host := by
  obtain ⟨host, port, hhost, -, rfl⟩ := eq_of_readSite hspecial h
  obtain ⟨husername, hpassword⟩ := escaped_of_splitUserinfo authority
  exact ⟨host, husername, hpassword, rfl, _, hhost⟩

/-! ## Writing sites -/

/-- The port of a site as it is written. -/
def Site.portText (s : Site) : Text :=
  (s.port.map (':' :: Text.ofNat ·)).getD []

theorem Site.portText_eq : s.portText = Authority.portText (s.port.map Text.ofNat) := by
  rw [Authority.portText, Option.map_map]
  rfl

theorem Site.mem_portText (h : c ∈ s.portText) : c = ':' ∨ c.isDigit = true := by
  unfold portText at h
  cases hport : s.port with
  | none =>
    rw [hport] at h
    cases h
  | some n =>
    rw [hport] at h
    rcases List.mem_cons.1 h with rfl | h
    · exact .inl rfl
    · exact .inr (Text.isDigit_of_mem_ofNat h)

namespace Site.IsTold

theorem toText_eq (h : s.IsTold host) :
    s.toText = s.userinfoText ++ (host.toText ++ s.portText) := by
  simp [Site.toText, portText, h.named]

/-- Nothing, or a text that is escaped and its `@`. -/
theorem userinfoText_cases (h : s.IsTold host) : s.userinfoText = [] ∨
    ∃ front, s.userinfoText = front ++ ['@'] ∧
      ∀ d ∈ front, d = ':' ∨ ∃ t, d ∈ percentEncode isUserinfoEscaped t := by
  obtain ⟨t, ht⟩ := h.username
  unfold userinfoText
  split
  · exact .inl rfl
  · refine .inr ⟨_, rfl, fun d hd => ?_⟩
    rcases List.mem_append.1 hd with hd | hd
    · exact .inr ⟨t, ht ▸ hd⟩
    · cases hpassword : s.password with
      | none =>
        rw [hpassword] at hd
        cases hd
      | some p =>
        rw [hpassword] at hd
        obtain ⟨t', rfl⟩ := h.password p hpassword
        rcases List.mem_cons.1 hd with rfl | hd
        · exact .inl rfl
        · exact .inr ⟨t', hd⟩

/-- No character that ends an authority is in a written site. -/
theorem not_mem_toText (h : s.IsTold host) (hc : c ∈ "/?#".toList) : c ∉ s.toText := by
  have hall : "/?#".toList.all (fun d => isUserinfoEscaped d && !isHexDigit d && !d.isDigit &&
      !"%@:".toList.contains d && "/?#@".toList.contains d) = true := by
    decide
  have hclass := List.all_eq_true.1 hall c hc
  simp only [Bool.and_eq_true, Bool.not_eq_true', List.contains_eq_mem, decide_eq_true_eq,
    decide_eq_false_iff_not] at hclass
  obtain ⟨⟨⟨⟨hescaped, hhex⟩, hdigit⟩, hother⟩, hplain⟩ := hclass
  have hne : ∀ d ∈ "%@:".toList, c ≠ d := fun d hd heq => hother (heq ▸ hd)
  rw [h.toText_eq, List.mem_append, List.mem_append]
  rintro (hmem | hmem | hmem)
  · rcases h.userinfoText_cases with hempty | ⟨front, htext, hfront⟩
    · rw [hempty] at hmem
      cases hmem
    · rw [htext, List.mem_append, List.mem_singleton] at hmem
      rcases hmem with hmem | hmem
      · rcases hfront c hmem with hcolon | ⟨t, hmem⟩
        · exact hne ':' (by decide) hcolon
        · exact not_mem_percentEncode hescaped ⟨hne '%' (by decide), hhex⟩ hmem
      · exact hne '@' (by decide) hmem
  · exact h.told.plain c hplain hmem
  · rcases mem_portText hmem with hcolon | hdigit'
    · exact hne ':' (by decide) hcolon
    · rw [hdigit] at hdigit'
      cases hdigit'

theorem isEnd_eq_false (h : s.IsTold host) : ∀ d ∈ s.toText, Authority.isEnd d = false := by
  intro d hd
  have hne : ∀ c ∈ "/?#".toList, (d == c) = false := by
    intro c hc
    rw [beq_eq_false_iff_ne]
    rintro rfl
    exact h.not_mem_toText hc hd
  simp only [Authority.isEnd, hne '/' (by decide), hne '?' (by decide), hne '#' (by decide),
    Bool.or_false]

theorem hostAndPort_toText (h : s.IsTold host) :
    Authority.hostAndPort ⟨s.toText⟩ = host.toText ++ s.portText := by
  have hat : ∀ d ∈ (host.toText ++ s.portText).reverse, (d != '@') = true := by
    intro d hd
    rw [bne_iff_ne]
    rintro rfl
    rcases List.mem_append.1 (List.mem_reverse.1 hd) with hd | hd
    · exact h.told.plain '@' (by decide) hd
    · rcases mem_portText hd with hcolon | hdigit
      · exact absurd hcolon (by decide)
      · exact absurd hdigit (by decide)
  have hlast : (s.userinfoText.reverse).takeWhile (· != '@') = [] := by
    rcases h.userinfoText_cases with hempty | ⟨front, htext, -⟩
    · rw [hempty]
      rfl
    · rw [htext, List.reverse_append]
      rfl
  rw [Authority.hostAndPort, h.toText_eq, List.reverse_append, List.takeWhile_append_of_pos hat,
    hlast, List.append_nil, List.reverse_reverse]

/-- The host of a site is the host of the authority that it is written as. -/
theorem host_toText (h : s.IsTold host) : Authority.host ⟨s.toText⟩ = host.toText := by
  have hboth := h.hostAndPort_toText
  rw [portText_eq] at hboth
  exact h.told.shape.host_eq hboth

/-- So is its port, if ports can be as large. -/
theorem port?_toText (h : s.IsTold host) (hport : ∀ n ∈ s.port, n < 65536) :
    Authority.port? ⟨s.toText⟩ = s.port := by
  have hboth := h.hostAndPort_toText
  rw [portText_eq] at hboth
  have hdigits : ∀ d ∈ s.port.map Text.ofNat, ':' ∉ d := by
    intro d hd hcolon
    obtain ⟨n, -, rfl⟩ := Option.map_eq_some_iff.1 hd
    exact absurd (Text.isDigit_of_mem_ofNat hcolon) (by decide)
  rw [h.told.shape.port?_eq hdigits hboth]
  cases hn : s.port with
  | none => rfl
  | some n => simp [Text.toNat?_ofNat, hport n hn]

end Site.IsTold

namespace Site.IsRead

theorem toText_eq (h : s.IsRead host) :
    s.toText = s.userinfoText ++ (host.toText ++ s.portText) :=
  h.isTold.toText_eq

theorem isEnd_eq_false (h : s.IsRead host) : ∀ d ∈ s.toText, Authority.isEnd d = false :=
  h.isTold.isEnd_eq_false

theorem hostAndPort_toText (h : s.IsRead host) :
    Authority.hostAndPort ⟨s.toText⟩ = host.toText ++ s.portText :=
  h.isTold.hostAndPort_toText

theorem host_toText (h : s.IsRead host) : Authority.host ⟨s.toText⟩ = host.toText :=
  h.isTold.host_toText

theorem port?_toText (h : s.IsRead host) (hport : ∀ n ∈ s.port, n < 65536) :
    Authority.port? ⟨s.toText⟩ = s.port :=
  h.isTold.port?_toText hport

end Site.IsRead

/-- An address with a site is written like a target. -/
theorem Address.resourceText_eq {a : Address} (hsite : a.site = some s) :
    a.resourceText
      = a.scheme ++ ("://".toList ++ (s.toText ++ Uri.joinQuery a.path.toText a.query)) := by
  simp [resourceText, siteText, hsite, Uri.joinQuery]

end Courier.Web
