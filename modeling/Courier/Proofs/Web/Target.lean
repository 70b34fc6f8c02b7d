import Courier.Proofs.Authority
import Courier.Proofs.Web.Authority

/-!
# Web targets as addresses

A request target with a web scheme is read as an address part by part: its authority as a site, its
path from the root, and its query escaped. Only the authority can be wrong. What is read of it is
the host and the port that the authority itself tells.
-/

namespace Courier.Web

open Uri (IsWebScheme)
open Authority (isAuthorityChar)

variable {scheme name rest t path start : Text} {query : Option Text} {r : Reference} {ends : Bool}
  {s : Site} {c : Char}

theorem isSlash_eq_false (hc : isAuthorityChar c = true) : isSlash true c = false := by
  by_cases hslash : isSlash true c = true
  · simp only [isSlash, Bool.true_and, Bool.or_eq_true, beq_iff_eq] at hslash
    rcases hslash with rfl | rfl
    all_goals exact absurd hc (by decide)
  · simpa using hslash

theorem IsHostName.isAuthorityChar (h : IsHostName name) (hc : c ∈ name) :
    isAuthorityChar c = true := by
  have hchar := h.isHostNameChar_of_mem hc
  simp only [isHostNameChar, Bool.or_eq_true, beq_iff_eq] at hchar
  rcases hchar with (halphanum | rfl) | rfl
  · simp [Authority.isAuthorityChar, Authority.isPlainChar, halphanum]
  · decide
  · decide

namespace Address

open Reference

theorem splitScheme_web (hscheme : IsWebScheme scheme) :
    splitScheme (scheme ++ ':' :: rest) = some (scheme, rest) := by
  have hchars : scheme.all isSchemeChar = true := by
    rcases hscheme with rfl | rfl <;> decide
  have hbreak : Text.breakAt (!isSchemeChar ·) (scheme ++ ':' :: rest)
      = (scheme, ':' :: rest) := by
    apply Text.breakAt_append
    · intro c hc
      rw [List.all_eq_true.1 hchars c hc, Bool.not_true]
    · rintro c ⟨⟩
      decide
  unfold splitScheme
  rw [hbreak]
  rcases hscheme with rfl | rfl <;> rfl

theorem ofAuthority_append (hscheme : IsWebScheme scheme)
    (hname : ∀ c ∈ name, isAuthorityChar c = true) (hpath : path.head? = some '/') :
    ofAuthority scheme (name ++ path) r = (readSite scheme name true).map fun (site, start) =>
      withParts scheme (some site) (.segments (walk [] (pathSegments true (start ++ path)))) r := by
  have hbreak : Text.breakAt (isSlash true) (name ++ path) = (name, path) := by
    apply Text.breakAt_append fun c hc => isSlash_eq_false (hname c hc)
    rw [hpath]
    rintro c ⟨⟩
    rfl
  have hempty : path.isEmpty = false := by
    obtain ⟨more, rfl⟩ : ∃ more, path = '/' :: more := List.head?_eq_some_iff.1 hpath
    rfl
  unfold ofAuthority
  simp only [isSpecial_of_isWebScheme hscheme, hbreak, hempty, Bool.not_false, Bool.true_or]
  cases readSite scheme name true with
  | error e => rfl
  | ok x =>
    refine congrArg Except.ok (congrArg (fun p => withParts scheme (some x.1) p r) ?_)
    exact readPath_true (x.2 ++ path)

theorem ofSchemeBody_web (hscheme : IsWebScheme scheme) (hne : name ≠ [])
    (hname : ∀ c ∈ name, isAuthorityChar c = true) :
    ofSchemeBody none scheme ("//".toList ++ (name ++ path)) r
      = ofAuthority scheme (name ++ path) r := by
  have hslashes : ("//".toList ++ (name ++ path)).takeWhile (isSlash true) = "//".toList := by
    obtain ⟨c, more, rfl⟩ : ∃ c more, name = c :: more := List.exists_cons_of_ne_nil hne
    have hc : isSlash true c = false := isSlash_eq_false (hname c List.mem_cons_self)
    change ('/' :: '/' :: c :: (more ++ path)).takeWhile (isSlash true) = ['/', '/']
    rw [List.takeWhile_cons_of_pos rfl, List.takeWhile_cons_of_pos rfl,
      List.takeWhile_cons_of_neg (by simp [hc])]
  rw [ofSchemeBody_of_isWebScheme hscheme (.inr rfl), hslashes]
  rfl

theorem plain_of_web (hscheme : IsWebScheme scheme) (hname : ∀ c ∈ name, isAuthorityChar c = true)
    (hchars : ∀ c ∈ path, Uri.isPathChar c = true) :
    ∀ c ∈ scheme ++ ("://".toList ++ (name ++ path)), ' ' < c ∧ c ≠ '#' ∧ c ≠ '?' := by
  have hfront : (scheme ++ "://".toList).all (fun c => ' ' < c ∧ c ≠ '#' ∧ c ≠ '?') = true := by
    rcases hscheme with rfl | rfl <;> decide
  intro c hc
  rw [← List.append_assoc] at hc
  rcases List.mem_append.1 hc with hc | hc
  · simpa using List.all_eq_true.1 hfront c hc
  · rcases List.mem_append.1 hc with hc | hc
    · have hchar := hname c hc
      refine ⟨?_, ?_, ?_⟩
      · exact Authority.space_lt_of_isAuthorityChar hchar
      all_goals
        rintro rfl
        exact absurd hchar (by decide)
    · exact Uri.plain_of_isPathChar (hchars c hc)

/-- The address of a web target. -/
theorem parse_web (hscheme : IsWebScheme scheme) (hne : name ≠ [])
    (hname : ∀ c ∈ name, isAuthorityChar c = true) (ht : Uri.IsPathTarget path query) :
    parse (scheme ++ ("://".toList ++ (name ++ Uri.joinQuery path query)))
      = (readSite scheme name true).map fun (site, start) =>
        { scheme := scheme
          site := some site
          path := .segments (walk [] (pathSegments true (start ++ path)))
          query := query.map (percentEncode (isQueryEscaped true)) } := by
  have hbody := plain_of_web hscheme hname ht.path
  have htext : ofText (scheme ++ ("://".toList ++ (name ++ Uri.joinQuery path query)))
      = ⟨scheme ++ ("://".toList ++ (name ++ path)), query, none⟩ := by
    have hjoin : scheme ++ ("://".toList ++ (name ++ Uri.joinQuery path query))
        = Uri.joinQuery (scheme ++ ("://".toList ++ (name ++ path))) query := by
      simp [Uri.joinQuery]
    rw [hjoin]
    exact ofText_joinQuery hbody fun q hq c hc => Uri.plain_of_isQueryChar (ht.query q hq c hc)
  have hsplits : splitScheme (ofText (scheme ++ ("://".toList ++ (name ++
      Uri.joinQuery path query)))).body = some (scheme, "//".toList ++ (name ++ path)) := by
    simp only [htext, body, clean_eq_self fun c hc => (hbody c hc).1]
    exact splitScheme_web hscheme
  rw [parse_of_splitScheme hsplits, ofSchemeBody_web hscheme hne hname,
    ofAuthority_append hscheme hname ht.slash, htext]
  have hspecial := isSpecial_of_isWebScheme hscheme
  simp [withParts, queryOf, fragmentOf, hspecial]

theorem readSite_of_isHostName (h : IsHostName name) (ends : Bool) :
    readSite "http".toList name ends
      = (Host.parse name).map fun host => ({ host := some host }, []) := by
  have hat : '@' ∉ name := h.not_mem (by decide)
  have hlone : (name == ['@']) = false := by
    rw [beq_eq_false_iff_ne]
    rintro rfl
    exact hat List.mem_cons_self
  have hnonempty : name.isEmpty = false := by
    simpa using h.nonempty
  have hcolon : ':' ∉ name := h.not_mem (by decide)
  unfold readSite
  simp only [hlone, splitUserinfo_eq_self hat, readHostAndPort, splitPort_eq_self hcolon, hnonempty]
  cases hhost : Host.parse name with
  | error e => rfl
  | ok host => rfl

/-- The address of a web target on a plain host. -/
theorem parse_http (hname : IsHostName name) (ht : Uri.IsPathTarget path query) :
    parse ("http://".toList ++ (name ++ Uri.joinQuery path query))
      = (Host.parse name).map fun host =>
        { scheme := "http".toList
          site := some { host := some host }
          path := .segments (walk [] (pathSegments true path))
          query := query.map (percentEncode (isQueryEscaped true)) } := by
  refine (parse_web (.inl rfl) hname.nonempty (fun c hc => hname.isAuthorityChar hc) ht).trans ?_
  rw [readSite_of_isHostName hname]
  cases Host.parse name with
  | error e => rfl
  | ok host => rfl

end Address

/-! ## Sites -/

theorem snd_splitUserinfo (a : Authority) : (splitUserinfo a.text).2 = a.hostAndPort := by
  unfold splitUserinfo
  split
  · rfl
  · next hat => exact (Authority.hostAndPort_eq_self (by simpa using hat)).symm

theorem splitPort_eq (inside : Bool) (t : Text) :
    t = (splitPort inside t).1 ++ Authority.portText (splitPort inside t).2 := by
  induction t generalizing inside with
  | nil => rfl
  | cons c rest ih =>
    rw [splitPort]
    split
    · next hc =>
      rw [Bool.and_eq_true, beq_iff_eq] at hc
      rw [hc.1]
      rfl
    · exact congrArg (c :: ·) (ih _)

theorem mem_of_mem_splitPort {inside : Bool} (h : c ∈ (splitPort inside t).2.getD []) : c ∈ t := by
  have hsplit := splitPort_eq inside t
  rw [hsplit]
  cases hport : (splitPort inside t).2 with
  | none =>
    rw [hport] at h
    cases h
  | some digits =>
    rw [hport] at h
    exact List.mem_append_right _ (List.mem_cons_of_mem _ h)

theorem hostAndPort_sublist (a : Authority) : a.hostAndPort.Sublist a.text := by
  have hreverse := (List.takeWhile_sublist (· != '@') (l := a.text.reverse)).reverse
  rwa [List.reverse_reverse] at hreverse

/-- Outside brackets a host ends at its first colon. -/
theorem colon_not_mem_splitPort (h : '[' ∉ (splitPort false t).1) :
    ':' ∉ (splitPort false t).1 := by
  induction t with
  | nil => exact List.not_mem_nil
  | cons c rest ih =>
    rw [splitPort] at h ⊢
    split at h
    · next hc =>
      rw [if_pos hc]
      exact List.not_mem_nil
    · next hc =>
      rw [if_neg hc]
      dsimp only at h ⊢
      rw [List.mem_cons, not_or] at h ⊢
      have hopen : (c == '[') = false := beq_eq_false_iff_ne.2 (Ne.symm h.1)
      rw [hopen] at h ⊢
      simp only [Bool.false_eq_true, if_false, ite_self] at h ⊢
      refine ⟨?_, ih h.2⟩
      rintro rfl
      exact hc rfl

/-- A port is the number that its digits write, unless that goes without saying. -/
theorem eq_of_readPort {port : Option Nat} (hplain : '\\' ∉ t)
    (h : readPort scheme t = .ok (port, start)) :
    start = [] ∧ (∀ c ∈ t, c.isDigit = true) ∧
      port = ((Text.toNat? t).filter (· < 65536)).filter (defaultPort? scheme ≠ some ·) := by
  unfold readPort at h
  simp only [Text.breakAt, Bool.not_not] at h
  have hsplit := List.takeWhile_append_dropWhile (p := Char.isDigit) (l := t)
  split at h
  · cases h
  next hrest =>
  have hempty : t.dropWhile Char.isDigit = [] := by
    cases hdrop : t.dropWhile Char.isDigit with
    | nil => rfl
    | cons d more =>
      have hd : d ∈ t := (List.dropWhile_sublist Char.isDigit).subset (hdrop ▸ List.mem_cons_self)
      have hback : d = '\\' := by simpa [hdrop] using hrest
      exact absurd (hback ▸ hd) hplain
  rw [hempty, List.append_nil] at hsplit
  rw [hempty, hsplit] at h
  have hdigits : ∀ c ∈ t, c.isDigit = true :=
    List.all_eq_true.1 (hsplit ▸ List.all_takeWhile)
  split at h
  · next hnil =>
    cases h
    rw [List.isEmpty_iff.1 hnil]
    exact ⟨rfl, fun c hc => (nomatch hc), rfl⟩
  · next hne =>
    split at h
    · cases h
    · next hsmall =>
      cases h
      have hsmall : t.digitsValue 10 < 65536 := by omega
      rw [Text.toNat?_of_digits (by simpa using hne) hdigits]
      refine ⟨rfl, hdigits, ?_⟩
      rw [Option.filter_some (a := t.digitsValue 10), decide_eq_true hsmall, if_pos rfl,
        Option.filter_some]
      by_cases hdefault : defaultPort? scheme = some (t.digitsValue 10)
      · simp [hdefault]
      · simp [hdefault]

/-- An authority without a backslash is read to its end. -/
theorem start_of_readSite (hscheme : IsWebScheme scheme) (hplain : '\\' ∉ name)
    (h : readSite scheme name ends = .ok (s, start)) : start = [] := by
  obtain ⟨host, port, -, hport, -⟩ := eq_of_readSite (isSpecial_of_isWebScheme hscheme) h
  rw [snd_splitUserinfo ⟨name⟩] at hport
  refine (eq_of_readPort (fun hmem => hplain ?_) hport).1
  exact (hostAndPort_sublist ⟨name⟩).subset (mem_of_mem_splitPort hmem)

/-- The name that is cut off before the port is one that the authority has for its host. -/
theorem isHostText_of_splitPort {host : Host} (hclose : t.count ']' ≤ 1)
    (h : Host.parse (splitPort false t).1 = .ok host) :
    Authority.IsHostText (splitPort false t).1 := by
  have hsplit := splitPort_eq false t
  by_cases hopen : (splitPort false t).1.head? = some '['
  · obtain ⟨rest, hname⟩ := List.head?_eq_some_iff.1 hopen
    rw [hname, Host.parse, Host.parseBracketed] at h
    split at h
    · next hlast =>
      obtain ⟨inner, rfl⟩ := List.getLast?_eq_some_iff.1 (beq_iff_eq.1 hlast)
      refine .bracketed hname fun hmem => ?_
      have hcount : 0 < inner.count ']' := List.count_pos_iff.2 hmem
      rw [hsplit, hname] at hclose
      simp only [List.cons_append, List.append_assoc, List.count_cons, List.count_append,
        List.count_nil, BEq.rfl, if_true] at hclose
      omega
    · cases h
  · exact .plain (colon_not_mem_splitPort (Host.open_not_mem_of_parse h hopen)) hopen

/-- What is read of the authority of a web target: the host and the port that it tells. -/
theorem port_of_readSite {a : Authority} (hscheme : IsWebScheme scheme)
    (ha : Authority.check a.text = .ok a) (h : readSite scheme a.text ends = .ok (s, start)) :
    start = [] ∧ s.port = a.port?.filter (defaultPort? scheme ≠ some ·) ∧
      ∃ host, s.host = some host ∧ Host.parse a.host = .ok host := by
  obtain ⟨host, port, hhost, hport, rfl⟩ := eq_of_readSite (isSpecial_of_isWebScheme hscheme) h
  rw [snd_splitUserinfo] at hhost hport
  have hsub := hostAndPort_sublist a
  have hclose : a.hostAndPort.count ']' ≤ 1 :=
    (hsub.count_le ']').trans (Authority.count_close_of_check ha)
  have hback : '\\' ∉ (splitPort false a.hostAndPort).2.getD [] := fun hmem =>
    absurd (Authority.isAuthorityChar_of_check ha _ (hsub.subset (mem_of_mem_splitPort hmem)))
      (by decide)
  have hsplit := splitPort_eq false a.hostAndPort
  have hname := isHostText_of_splitPort hclose hhost
  have hhostText := hname.host_eq hsplit
  generalize splitPort false a.hostAndPort = cut at hhost hport hback hsplit hname hhostText
  obtain ⟨name, digits⟩ := cut
  dsimp only at hhost hport hback hsplit hname hhostText
  obtain ⟨hstart, hdigits, rfl⟩ := eq_of_readPort hback hport
  have hcolon : ∀ d ∈ digits, ':' ∉ d := by
    rintro d rfl hmem
    exact absurd (hdigits ':' hmem) (by decide)
  refine ⟨hstart, ?_, host, rfl, by rw [hhostText, hhost]⟩
  rw [hname.port?_eq hcolon hsplit]
  cases digits <;> rfl

end Courier.Web
