import Courier.Proofs.Web.Target
import Courier.Proofs.Web.WrittenHost
import Courier.Proofs.Web.WrittenPath

/-!
# Written addresses

Every web address that is resolved is read back from its written form, its fragment apart. User
name, password and query are escaped and escaping them again changes nothing, the host was read
before, a port that is written does not go without saying, and a walk along the path stays on it.
-/

namespace Courier.Web

open Uri (IsWebScheme)

variable {t scheme authority start front back : Text} {s : Site} {host : Host} {port : Option Nat}
  {ends : Bool}

/-! ## Userinfo -/

theorem percentEncode_ne_nil {escaped : Char → Bool} (h : t ≠ []) :
    percentEncode escaped t ≠ [] := by
  obtain ⟨c, rest, rfl⟩ := List.exists_cons_of_ne_nil h
  rw [percentEncode, List.flatMap_cons]
  unfold escapeChar
  split
  · obtain ⟨b, more, hoctets, -⟩ := exists_octet c
    rw [hoctets]
    exact List.cons_ne_nil _ _
  · exact List.cons_ne_nil _ _

/-- Userinfo that is escaped stays as it is when it is escaped again. -/
theorem percentEncode_userinfo :
    percentEncode isUserinfoEscaped (percentEncode isUserinfoEscaped t) =
      percentEncode isUserinfoEscaped t := by
  refine percentEncode_eq_self (eq_false_of_mem_percentEncode (by decide) fun d hd => ?_)
  obtain ⟨n, hn, rfl⟩ := exists_of_isHexDigit hd
  exact (plain_of_isHexDigit n hn hd).2.1

/-! ## Reading sites -/

/-- A site as it is read under a scheme: no password is empty and no port goes without saying. -/
structure Site.IsWritten (s : Site) (scheme : Text) (host : Host) : Prop where
  read : s.IsRead host
  password : ∀ p ∈ s.password, p ≠ []
  port : ∀ n ∈ s.port, n < 65536 ∧ defaultPort? scheme ≠ some n

theorem password_ne_nil_of_splitUserinfo (authority : Text) :
    ∀ p ∈ ((splitUserinfo authority).1.getD ([], none)).2, p ≠ [] := by
  intro p hp
  unfold splitUserinfo at hp
  split at hp
  · obtain ⟨q, hq, rfl⟩ := Option.map_eq_some_iff.1 hp
    have hne : q ≠ [] := by simpa using (Option.mem_filter_iff.1 hq).2
    exact percentEncode_ne_nil hne
  · cases hp

theorem port_of_readPort (h : readPort scheme t = .ok (port, start)) :
    ∀ n ∈ port, n < 65536 ∧ defaultPort? scheme ≠ some n := by
  unfold readPort at h
  dsimp only at h
  split at h
  · cases h
  split at h
  · cases h
    exact fun n hn => (nomatch hn)
  split at h
  · cases h
  next hsmall =>
  cases h
  intro n hn
  split at hn
  · cases hn
  · next hdefault =>
    cases hn
    exact ⟨by omega, by simpa using hdefault⟩

theorem isWritten_of_readSite (hspecial : isSpecial scheme = true)
    (h : readSite scheme authority ends = .ok (s, start)) : ∃ host, s.IsWritten scheme host := by
  obtain ⟨host, port, hhost, hport, rfl⟩ := eq_of_readSite hspecial h
  obtain ⟨husername, hpassword⟩ := escaped_of_splitUserinfo authority
  exact ⟨host, ⟨husername, hpassword, rfl, _, hhost⟩, password_ne_nil_of_splitUserinfo authority,
    port_of_readPort hport⟩

/-! ## Reading written sites -/

/-- The userinfo ends at the last `@`, and the password starts at its first colon. -/
theorem splitUserinfo_append (h : '@' ∉ back) :
    splitUserinfo (front ++ '@' :: back) =
      (some (percentEncode isUserinfoEscaped (Text.cutAt ':' front).1,
        ((Text.cutAt ':' front).2.filter (!·.isEmpty)).map (percentEncode isUserinfoEscaped)),
        back) := by
  have hat : (front ++ '@' :: back).contains '@' = true := by simp
  have hback : ((front ++ '@' :: back).reverse.takeWhile (· != '@')).reverse = back := by
    have hplain : ∀ c ∈ back.reverse, (c != '@') = true := by
      intro c hc
      rw [bne_iff_ne]
      rintro rfl
      exact h (List.mem_reverse.1 hc)
    rw [List.reverse_append, List.reverse_cons, List.append_assoc,
      List.takeWhile_append_of_pos hplain, List.singleton_append,
      List.takeWhile_cons_of_neg (by decide), List.append_nil, List.reverse_reverse]
  have hfront : (front ++ '@' :: back).take ((front ++ '@' :: back).length - back.length - 1) =
      front := by
    apply List.take_left'
    rw [List.length_append, List.length_cons]
    omega
  unfold splitUserinfo
  rw [if_pos hat, hback]
  dsimp only
  rw [hfront]

theorem splitPort_portText {digits : Option Text} (hopen : '[' ∉ t) (hcolon : ':' ∉ t) :
    splitPort false (t ++ Authority.portText digits) = (t, digits) := by
  induction t with
  | nil => cases digits <;> rfl
  | cons c rest ih =>
    rw [List.mem_cons, not_or] at hopen hcolon
    have hc : (c == ':') = false := beq_eq_false_iff_ne.2 (Ne.symm hcolon.1)
    have hc' : (c == '[') = false := beq_eq_false_iff_ne.2 (Ne.symm hopen.1)
    have hrest := ih hopen.2 hcolon.2
    rw [List.cons_append, splitPort]
    simp [hc, hc', hrest]

/-- No colon in brackets ends the host. -/
theorem splitPort_inside {inner rest : Text} (hopen : '[' ∉ inner) (hclose : ']' ∉ inner) :
    splitPort true (inner ++ ']' :: rest) =
      (inner ++ ']' :: (splitPort false rest).1, (splitPort false rest).2) := by
  induction inner with
  | nil => simp [splitPort]
  | cons c inner ih =>
    rw [List.mem_cons, not_or] at hopen hclose
    have hc : (c == ']') = false := beq_eq_false_iff_ne.2 (Ne.symm hclose.1)
    have hc' : (c == '[') = false := beq_eq_false_iff_ne.2 (Ne.symm hopen.1)
    have hinner := ih hopen.2 hclose.2
    rw [List.cons_append, splitPort]
    simp [hc, hc', hinner]

theorem splitPort_host {digits : Option Text} (h : Host.parse t = .ok host) :
    splitPort false (host.toText ++ Authority.portText digits) = (host.toText, digits) := by
  rcases Host.toText_cases h with hplain | ⟨inner, htext, hinner⟩
  · have hnone : ∀ d, Host.isForbidden d = true → d ∉ host.toText := by
      intro d hd hmem
      rw [hplain d hmem] at hd
      cases hd
    exact splitPort_portText (hnone '[' (by decide)) (hnone ':' (by decide))
  · have hnone : ∀ d, isBracketedChar d = false → d ∉ inner := by
      intro d hd hmem
      rw [hinner d hmem] at hd
      cases hd
    have hport : splitPort false (Authority.portText digits) = ([], digits) :=
      splitPort_portText List.not_mem_nil List.not_mem_nil
    have hinside : splitPort true (inner ++ ']' :: Authority.portText digits) =
        (inner ++ [']'], digits) := by
      rw [splitPort_inside (hnone '[' (by decide)) (hnone ']' (by decide)), hport]
    rw [htext, List.append_assoc, List.singleton_append, List.cons_append, splitPort]
    simp [hinside]

theorem readPort_ofNat {n : Nat} (hn : n < 65536) (hdefault : defaultPort? scheme ≠ some n) :
    readPort scheme (Text.ofNat n) = .ok (some n, []) := by
  have hbreak : Text.breakAt (!Char.isDigit ·) (Text.ofNat n) = (Text.ofNat n, []) := by
    have hdigits : ∀ c ∈ Text.ofNat n, (!c.isDigit) = false := by
      intro c hc
      rw [Text.isDigit_of_mem_ofNat hc]
      rfl
    have hall := Text.breakAt_append (b := []) hdigits fun c hc => (nomatch hc)
    rwa [List.append_nil] at hall
  have hempty : (Text.ofNat n).isEmpty = false := by simpa using Text.ofNat_ne_nil n
  have hvalue : (Text.ofNat n).digitsValue 10 = n :=
    Text.digitsValue_toDigits (by omega) (by omega) n
  have hsmall : ¬ 65535 < n := by omega
  unfold readPort
  simp [hbreak, hempty, hvalue, hsmall, hdefault]

namespace Site.IsWritten

theorem hostAndPort_toText (h : s.IsWritten scheme host) :
    (splitUserinfo s.toText).2 = host.toText ++ s.portText :=
  (snd_splitUserinfo ⟨s.toText⟩).trans h.read.hostAndPort_toText

theorem splitUserinfo_toText (h : s.IsWritten scheme host) :
    (splitUserinfo s.toText).1.getD ([], none) = (s.username, s.password) := by
  have htext := h.read.toText_eq
  obtain ⟨name, hname⟩ := h.read.parsed
  obtain ⟨t, ht⟩ := h.read.username
  have hat : '@' ∉ host.toText ++ s.portText := by
    rw [← h.read.hostAndPort_toText]
    exact Authority.not_mem_hostAndPort _
  by_cases hnone : (s.username.isEmpty && s.password.isNone) = true
  · have hempty : s.userinfoText = [] := if_pos hnone
    rw [Bool.and_eq_true, List.isEmpty_iff, Option.isNone_iff_eq_none] at hnone
    rw [htext, hempty, List.nil_append, Address.splitUserinfo_eq_self hat, hnone.1, hnone.2]
    rfl
  · have huserinfo : s.userinfoText =
        s.username ++ (s.password.map (':' :: ·)).getD [] ++ ['@'] := if_neg hnone
    have hcut : Text.cutAt ':' (s.username ++ (s.password.map (':' :: ·)).getD []) =
        (s.username, s.password) := by
      have hcolon : ':' ∉ s.username := by
        rw [ht]
        exact not_mem_percentEncode (by decide) (by decide)
      cases s.password with
      | none => simpa using Text.cutAt_eq_self hcolon
      | some p => exact Text.cutAt_append hcolon
    rw [htext, huserinfo, List.append_assoc, List.singleton_append, splitUserinfo_append hat, hcut]
    dsimp only
    rw [ht, percentEncode_userinfo, Option.getD_some]
    cases hp : s.password with
    | none => rfl
    | some p =>
      obtain ⟨q, rfl⟩ := h.read.password p hp
      have hne : (percentEncode isUserinfoEscaped q).isEmpty = false := by
        simpa using h.password _ hp
      rw [Option.filter_some, hne, if_pos (by rfl), Option.map_some, percentEncode_userinfo]

theorem readHostAndPort_toText (hspecial : isSpecial scheme = true) (h : s.IsWritten scheme host) :
    readHostAndPort scheme (host.toText ++ s.portText) =
      (Host.parse host.toText).map fun again => (some again, s.port, []) := by
  obtain ⟨name, hname⟩ := h.read.parsed
  have hempty : host.toText.isEmpty = false := by simpa using Host.toText_ne_nil hname
  have hport : readPort scheme ((s.port.map Text.ofNat).getD []) = .ok (s.port, []) := by
    cases hport : s.port with
    | none => rfl
    | some n =>
      obtain ⟨hn, hdefault⟩ := h.port n hport
      exact readPort_ofNat hn hdefault
  unfold readHostAndPort
  rw [Site.portText_eq, splitPort_host hname, hspecial]
  cases hagain : Host.parse host.toText with
  | error e => simp [hempty, hagain, bind, Except.bind, Except.map]
  | ok again => simp [hempty, hagain, hport, bind, Except.bind, Except.map]

/-- **Written sites.** A site that was read is read back from its written form, if its host is. -/
theorem readSite_toText (hspecial : isSpecial scheme = true) (h : s.IsWritten scheme host) :
    readSite scheme s.toText true =
      (Host.parse host.toText).map fun again => ({ s with host := some again }, []) := by
  have hlone : (s.toText == ['@']) = false := by
    rw [beq_eq_false_iff_ne]
    intro hlone
    obtain ⟨name, hname⟩ := h.read.parsed
    have hnil := h.hostAndPort_toText
    rw [hlone] at hnil
    exact Host.toText_ne_nil hname (List.append_eq_nil_iff.1 hnil.symm).1
  have hread := h.readHostAndPort_toText hspecial
  unfold readSite
  simp only [hlone, Bool.false_and, Bool.false_eq_true, if_false, h.hostAndPort_toText, hread,
    h.splitUserinfo_toText]
  cases Host.parse host.toText with
  | error e => rfl
  | ok again => rfl

end Site.IsWritten

/-! ## Resolving addresses -/

/-- A web address as it is resolved, and so as it can be written. -/
structure Address.IsWritten (a : Address) : Prop where
  site : ∃ s host, a.site = some s ∧ s.IsWritten a.scheme host
  path : ∃ names, names ≠ [] ∧ (∀ s ∈ names, IsWrittenName s) ∧ a.path = .segments names
  query : ∀ q ∈ a.query, ∀ c ∈ q, isQueryEscaped true c = false

namespace Address

variable {a base : Address} {base? : Option Address} {r : Reference} {body : Text}
  {above : List Text}

theorem isQueryEscaped_of_mem_queryOf (hscheme : IsWebScheme scheme) :
    ∀ q ∈ queryOf scheme r, ∀ c ∈ q, isQueryEscaped true c = false := by
  intro q hq
  obtain ⟨t, -, rfl⟩ := Option.map_eq_some_iff.1 hq
  rw [isSpecial_of_isWebScheme hscheme]
  refine eq_false_of_mem_percentEncode (by decide) fun d hd => ?_
  obtain ⟨n, hn, rfl⟩ := exists_of_isHexDigit hd
  exact (plain_of_isHexDigit n hn hd).2.2

theorem isWrittenName_of_mem_walk (habove : ∀ s ∈ above, IsWrittenName s) :
    ∀ s ∈ walk above (pathSegments true t), IsWrittenName s := by
  refine forall_mem_walk habove isWrittenName_nil fun s hs hplain => ?_
  exact isWrittenName_percentEncode (isSlash_eq_false_of_mem_pathSegments hs) hplain

theorem isWritten_withParts {s : Site} (hscheme : IsWebScheme scheme)
    (hsite : s.IsWritten scheme host) (habove : ∀ s ∈ above, IsWrittenName s) :
    (withParts scheme (some s) (.segments (walk above (pathSegments true t))) r).IsWritten where
  site := ⟨s, host, rfl, hsite⟩
  path := ⟨_, walk_ne_nil pathSegments_ne_nil, isWrittenName_of_mem_walk habove, rfl⟩
  query := isQueryEscaped_of_mem_queryOf hscheme

theorem isWritten_of_ofAuthority (hscheme : IsWebScheme scheme)
    (h : ofAuthority scheme t r = .ok a) : a.IsWritten := by
  have hspecial := isSpecial_of_isWebScheme hscheme
  obtain ⟨_, _, s, _, path, hsite, rfl⟩ := exists_of_ofAuthority h
  obtain ⟨host, hwritten⟩ := isWritten_of_readSite hspecial hsite
  rw [hspecial, readPath_true]
  exact isWritten_withParts hscheme hwritten fun s hs => (nomatch hs)

/-- A reference without a scheme keeps the scheme of its base. -/
theorem scheme_of_ofRelativeBody (h : ofRelativeBody base body r = .ok a) :
    a.scheme = base.scheme := by
  unfold ofRelativeBody at h
  dsimp only at h
  split at h
  · cases h
    rfl
  split at h
  · exact scheme_of_ofAuthority h
  split at h
  · cases h
    rfl
  · cases h
    rfl

theorem isWritten_of_ofRelativeBody (hscheme : IsWebScheme base.scheme) (hb : base.IsWritten)
    (h : ofRelativeBody base body r = .ok a) : a.IsWritten := by
  obtain ⟨s, host, hs, hsite⟩ := hb.site
  obtain ⟨names, -, hnames, hpath⟩ := hb.path
  have hspecial := isSpecial_of_isWebScheme hscheme
  unfold ofRelativeBody at h
  rw [hspecial, hs] at h
  dsimp only at h
  split at h
  · cases h
    refine ⟨⟨s, host, rfl, hsite⟩, hb.path, fun q hq => ?_⟩
    cases hquery : queryOf base.scheme r with
    | none =>
      rw [hquery] at hq
      exact hb.query q hq
    | some q' =>
      rw [hquery] at hq
      exact isQueryEscaped_of_mem_queryOf hscheme q (hquery.trans hq)
  split at h
  · exact isWritten_of_ofAuthority hscheme h
  split at h
  · cases h
    exact isWritten_withParts hscheme hsite fun s hs => (nomatch hs)
  · cases h
    refine isWritten_withParts hscheme hsite fun s hs => hnames s ?_
    rw [segments, hpath] at hs
    exact List.dropLast_subset names hs

theorem isWritten_of_ofSchemeBody (hb : ∀ b ∈ base?, IsWebScheme b.scheme → b.IsWritten)
    (h : ofSchemeBody base? scheme body r = .ok a) (hweb : IsWebScheme a.scheme) :
    a.IsWritten := by
  unfold ofSchemeBody at h
  split at h
  · have hfile : ∀ b ∈ base?.filter (·.scheme == fileScheme), b.scheme = fileScheme := by
      intro b hmem
      exact beq_iff_eq.1 (Option.mem_filter_iff.1 hmem).2
    rw [scheme_of_ofFileBody hfile h] at hweb
    exact absurd hweb not_isWebScheme_fileScheme
  split at h
  · dsimp only at h
    split at h
    · next b hbase =>
      split at h
      · have hscheme := scheme_of_ofRelativeBody h
        rw [hscheme] at hweb
        exact isWritten_of_ofRelativeBody hweb (hb b (Option.mem_filter_iff.1 hbase).1 hweb) h
      · rw [scheme_of_ofAuthority h] at hweb
        exact isWritten_of_ofAuthority hweb h
    · rw [scheme_of_ofAuthority h] at hweb
      exact isWritten_of_ofAuthority hweb h
  next hspecial =>
  split at h
  · rw [scheme_of_ofAuthority h] at hweb
    exact isWritten_of_ofAuthority hweb h
  split at h
  · cases h
    exact absurd (isSpecial_of_isWebScheme hweb) hspecial
  · cases h
    exact absurd (isSpecial_of_isWebScheme hweb) hspecial

/-- Every web address that is resolved is a written one, if its base is none or a written one. -/
theorem isWritten_of_resolve (hb : ∀ b ∈ base?, IsWebScheme b.scheme → b.IsWritten)
    (h : resolve base? t = .ok a) (hweb : IsWebScheme a.scheme) : a.IsWritten := by
  unfold resolve at h
  dsimp only at h
  split at h
  · exact isWritten_of_ofSchemeBody hb h hweb
  · cases h
  · next b hsplits =>
    split at h
    · cases h
      obtain ⟨hsite, hpath, hquery⟩ := hb b rfl hweb
      exact ⟨hsite, hpath, hquery⟩
    split at h
    · cases h
    split at h
    · next hfile =>
      rw [scheme_of_ofFileBody (by rintro b ⟨⟩; exact beq_iff_eq.1 hfile) h] at hweb
      exact absurd hweb not_isWebScheme_fileScheme
    · have hscheme := scheme_of_ofRelativeBody h
      rw [hscheme] at hweb
      exact isWritten_of_ofRelativeBody hweb (hb b rfl hweb) h

/-! ## Reading written addresses -/

/-- A path with its query as they are written in an address are read as the two. -/
theorem IsWritten.readPathAndQuery (h : a.IsWritten) {path : Text} {query : Option Text}
    (hread : Uri.parse (Uri.joinQuery a.path.toText a.query) = .ok (.origin path query)) :
    path = a.path.toText ∧ query = a.query := by
  obtain ⟨names, -, hnames, hpath⟩ := h.path
  have hplain := not_mem_toText fun s hs => (hnames s hs).isName
  have hquery : ∀ q ∈ a.query, '#' ∉ q := by
    intro q hq hmem
    exact absurd (h.query q hq '#' hmem) (by decide)
  have hread := (Uri.parse_eq_origin_iff.1 hread).2.2
  rw [hpath, Uri.readPathAndQuery_joinQuery hplain hquery, ← hpath] at hread
  split at hread
  · cases hread
    exact ⟨rfl, rfl⟩
  · cases hread

theorem IsWritten.head?_toText (h : a.IsWritten) : a.path.toText.head? = some '/' := by
  obtain ⟨names, hne, -, hpath⟩ := h.path
  rw [hpath, Web.head?_toText hne]

/-- The target that the path of a written address is. -/
theorem IsWritten.eq_origin_of_parse {u : Uri} (h : a.IsWritten)
    (hu : Uri.parse (Uri.joinQuery a.path.toText a.query) = .ok u) :
    u = .origin a.path.toText a.query := by
  obtain ⟨path, query, rfl⟩ := Uri.eq_origin_of_parse hu (Uri.head?_joinQuery h.head?_toText)
  obtain ⟨rfl, rfl⟩ := h.readPathAndQuery hu
  rfl

/-- The target that a written address is. -/
theorem IsWritten.eq_absolute_of_parse {u : Uri} (h : a.IsWritten) (hweb : IsWebScheme a.scheme)
    (hsite : a.site = some s) (hu : Uri.parse a.resourceText = .ok u) :
    u = .absolute a.scheme ⟨s.toText⟩ a.path.toText a.query := by
  obtain ⟨s', host, hs', hwritten⟩ := h.site
  cases hsite.symm.trans hs'
  rw [resourceText_eq hsite] at hu
  obtain ⟨path, query, rfl, hpath⟩ := Uri.parse_web hweb hwritten.read.isEnd_eq_false
    (Uri.head?_joinQuery h.head?_toText) hu
  obtain ⟨rfl, rfl⟩ := h.readPathAndQuery hpath
  rfl

/-- The target that a written address is where its fragment is written too. -/
theorem IsWritten.eq_absolute_of_parse_toText {u : Uri} (h : a.IsWritten)
    (hweb : IsWebScheme a.scheme) (hsite : a.site = some s) (hu : Uri.parse a.toText = .ok u) :
    u = .absolute a.scheme ⟨s.toText⟩ a.path.toText a.query := by
  obtain ⟨s', host, hs', hwritten⟩ := h.site
  cases hsite.symm.trans hs'
  cases hfragment : a.fragment with
  | none =>
    have htext : a.toText = a.resourceText := by
      rw [toText, hfragment]
      exact List.append_nil _
    rw [htext] at hu
    exact h.eq_absolute_of_parse hweb hsite hu
  | some fragment =>
    have hslash : (Uri.joinQuery a.path.toText a.query).head? = some '/' :=
      Uri.head?_joinQuery h.head?_toText
    have htext : a.toText = a.scheme ++ ("://".toList ++
        (s.toText ++ (Uri.joinQuery a.path.toText a.query ++ '#' :: fragment))) := by
      rw [toText, resourceText_eq hsite, hfragment]
      simp
    have hslash' : (Uri.joinQuery a.path.toText a.query ++ '#' :: fragment).head? = some '/' := by
      rw [List.head?_append, hslash]
      rfl
    rw [htext] at hu
    obtain ⟨path, query, rfl, hpath⟩ :=
      Uri.parse_web hweb hwritten.read.isEnd_eq_false hslash' hu
    obtain ⟨rfl, rfl⟩ := h.readPathAndQuery (Uri.parse_origin_of_append_fragment hslash hpath)
    rfl

theorem IsWritten.walk_toText (h : a.IsWritten) :
    Path.segments (walk [] (pathSegments true a.path.toText)) = a.path := by
  obtain ⟨names, hne, hnames, hpath⟩ := h.path
  rw [hpath, Web.walk_toText hne hnames]

theorem IsWritten.map_percentEncode (h : a.IsWritten) :
    a.query.map (percentEncode (isQueryEscaped true)) = a.query := by
  cases hquery : a.query with
  | none => rfl
  | some q => rw [Option.map_some, percentEncode_eq_self (h.query q hquery)]

/-- **Written addresses.** A web address that was resolved is read back from its written form,
without its fragment, if that is a request target and its host is read back. -/
theorem IsWritten.parse_resourceText {u : Uri} (h : a.IsWritten) (hweb : IsWebScheme a.scheme)
    (hsite : a.site = some s) (hs : s.IsWritten a.scheme host)
    (hu : Uri.parse a.resourceText = .ok u) :
    parse a.resourceText = (Host.parse host.toText).map fun again =>
      { a with site := some { s with host := some again }, fragment := none } := by
  obtain rfl := h.eq_absolute_of_parse hweb hsite hu
  have htarget := Uri.isSiteTarget_of_parse hu
  rw [resourceText_eq hsite, parse_web hweb htarget.named
    (Authority.isAuthorityChar_of_check htarget.checked) htarget.target,
    hs.readSite_toText (isSpecial_of_isWebScheme hweb)]
  cases Host.parse host.toText with
  | error e => rfl
  | ok again => simp only [Except.map, List.nil_append, h.walk_toText, h.map_percentEncode]

/-! ## Paths that open an authority -/

/-- A written path that opens with two slashes has an empty first name. -/
theorem exists_of_opensAuthority {names : List Text} (hnames : ∀ s ∈ names, IsWrittenName s)
    (h : Reference.OpensAuthority (Path.segments names).toText) :
    ∃ name rest, names = [] :: name :: rest := by
  rcases names with _ | ⟨_ | ⟨c, first⟩, _ | ⟨name, rest⟩⟩
  · exact absurd h (Reference.not_opensAuthority_of_length_lt (by decide))
  · exact absurd h (Reference.not_opensAuthority_of_length_lt (by decide))
  · exact ⟨name, rest, rfl⟩
  all_goals
    have hc := (hnames (c :: first) List.mem_cons_self).slash c List.mem_cons_self
    have hslash := (Reference.opensAuthority_cons_cons.1 h).2
    rw [hc] at hslash
    cases hslash

/-- What follows the first name of a path that is taken for an authority. -/
theorem path_of_ofAuthority {name : Text} {rest : List Text} (hscheme : IsWebScheme scheme)
    (hname : IsWrittenName name) (hrest : ∀ s ∈ rest, IsWrittenName s)
    (h : ofAuthority scheme (name ++ (Path.segments rest).toText) r = .ok a) :
    a.path = .segments (if rest.isEmpty then [[]] else rest) := by
  have hspecial := isSpecial_of_isWebScheme hscheme
  have hbreak : Text.breakAt (isSlash true) (name ++ (Path.segments rest).toText) =
      (name, (Path.segments rest).toText) := by
    apply Text.breakAt_append hname.slash
    cases rest with
    | nil => exact fun c hc => (nomatch hc)
    | cons first rest =>
      rintro c ⟨⟩
      rfl
  have hback : '\\' ∉ name := fun hmem => absurd (hname.slash '\\' hmem) (by decide)
  unfold ofAuthority at h
  simp only [hspecial, hbreak] at h
  obtain ⟨⟨site, start⟩, hsite, h⟩ := bind_eq_ok.1 h
  obtain rfl := start_of_readSite hscheme hback hsite
  cases h
  rw [withParts, List.nil_append, readPath_true]
  cases rest with
  | nil => rfl
  | cons first rest => rw [Web.walk_toText (List.cons_ne_nil first rest) hrest]; rfl

end Address

end Courier.Web
