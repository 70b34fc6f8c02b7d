import Courier.Uri
import Courier.Proofs.Text
import Mathlib.Data.List.TakeWhile

/-!
# Reading request targets

What a target that is a path tells about the text it was read from, and how an absolute web target
is read: the text from its path on is read as if it stood alone.
-/

namespace Courier

/-- A reading in two steps succeeds where both do. -/
theorem bind_eq_ok {ε α β : Type} {x : Except ε α} {f : α → Except ε β} {b : β} :
    (x >>= f) = .ok b ↔ ∃ a, x = .ok a ∧ f a = .ok b := by
  cases x with
  | error e => simp [bind, Except.bind]
  | ok a => simp [bind, Except.bind]

theorem bind_eq_error {ε α β : Type} {x : Except ε α} {f : α → Except ε β} {e : ε} :
    (x >>= f) = .error e ↔ x = .error e ∨ ∃ a, x = .ok a ∧ f a = .error e := by
  cases x with
  | error e => simp [bind, Except.bind]
  | ok a => simp [bind, Except.bind]

theorem map_eq_ok {ε α β : Type} {x : Except ε α} {f : α → β} {b : β} :
    f <$> x = .ok b ↔ ∃ a, x = .ok a ∧ f a = b := by
  cases x with
  | error e => simp [Functor.map, Except.map]
  | ok a => simp [Functor.map, Except.map]

theorem map_eq_error {ε α β : Type} {x : Except ε α} {f : α → β} {e : ε} :
    f <$> x = .error e ↔ x = .error e := by
  cases x with
  | error e' => simp [Functor.map, Except.map]
  | ok a => simp [Functor.map, Except.map]

theorem eq_ok_of_toOption {ε α : Type} {x : Except ε α} {a : α} (h : x.toOption = some a) :
    x = .ok a := by
  cases x with
  | error e => cases h
  | ok b =>
    cases h
    rfl

theorem Authority.eq_of_check {t : Text} {a : Authority} (h : check t = .ok a) : a = ⟨t⟩ := by
  unfold check at h
  obtain ⟨s, -, h⟩ := bind_eq_ok.1 h
  split at h
  · cases h
  · cases h
    rfl

theorem Authority.read_append_of_isEnd {name rest : Text} (hname : ∀ c ∈ name, isEnd c = false)
    (hrest : ∀ c ∈ rest.head?, isEnd c = true) :
    read (name ++ rest) = (check name).map fun a => (a, rest) := by
  unfold read
  simp only [Text.breakAt_append hname hrest]
  cases check name with
  | error e => rfl
  | ok a => rfl

namespace Uri

variable {t path front : Text} {query : Option Text} {c : Char} {u : Uri}

/-! ## Path and query -/

theorem space_lt_of_visible (h : '!' ≤ c ∨ '\x80' ≤ c) : ' ' < c := by
  rcases h with hlow | hhigh
  · exact Std.lt_of_lt_of_le (by decide) hlow
  · exact Std.lt_of_lt_of_le (by decide) hhigh

theorem plain_of_isPathChar (h : isPathChar c = true) : ' ' < c ∧ c ≠ '#' ∧ c ≠ '?' := by
  refine ⟨space_lt_of_visible ?_, ?_, ?_⟩
  · simp only [isPathChar, Bool.or_eq_true, Bool.and_eq_true, decide_eq_true_eq] at h
    exact h.imp (·.1.1) id
  · rintro rfl
    exact absurd h (by decide)
  · rintro rfl
    exact absurd h (by decide)

theorem plain_of_isQueryChar (h : isQueryChar c = true) : ' ' < c ∧ c ≠ '#' := by
  refine ⟨space_lt_of_visible ?_, ?_⟩
  · simp only [isQueryChar, Bool.or_eq_true, Bool.and_eq_true, decide_eq_true_eq] at h
    exact h.imp (·.1.1) id
  · rintro rfl
    exact absurd h (by decide)

theorem readPathAndQuery_eq_ok_iff :
    readPathAndQuery t = .ok (path, query) ↔
      Text.cutAt '?' (t.takeWhile (· != '#')) = (path, query) ∧
        (path.all isPathChar && (query.getD []).all isQueryChar) = true := by
  unfold readPathAndQuery
  split
  next path' query' hcut =>
  rw [hcut]
  split
  · next hall =>
    rw [Except.ok.injEq]
    refine ⟨fun h => ⟨h, ?_⟩, And.left⟩
    cases h
    exact hall
  · next hall =>
    refine ⟨fun h => (nomatch h), ?_⟩
    rintro ⟨h, hall'⟩
    cases h
    exact absurd hall' hall

theorem isPathChar_of_readPathAndQuery (h : readPathAndQuery t = .ok (path, query))
    (hc : c ∈ path) : isPathChar c = true := by
  have hall := (readPathAndQuery_eq_ok_iff.1 h).2
  rw [Bool.and_eq_true] at hall
  exact List.all_eq_true.1 hall.1 c hc

theorem isQueryChar_of_readPathAndQuery (h : readPathAndQuery t = .ok (path, query))
    (hc : c ∈ query.getD []) : isQueryChar c = true := by
  have hall := (readPathAndQuery_eq_ok_iff.1 h).2
  rw [Bool.and_eq_true] at hall
  exact List.all_eq_true.1 hall.2 c hc

theorem head?_of_readPathAndQuery (h : readPathAndQuery t = .ok (path, query))
    (ht : t.head? = some '/') : path.head? = some '/' := by
  obtain ⟨rest, rfl⟩ : ∃ rest, t = '/' :: rest := List.head?_eq_some_iff.1 ht
  have hcut := (readPathAndQuery_eq_ok_iff.1 h).1
  have hpath : path = (Text.cutAt '?' (('/' :: rest).takeWhile (· != '#'))).1 := by
    rw [hcut]
  rw [hpath, Text.fst_cutAt]
  rfl

theorem head?_joinQuery (h : path.head? = some '/') :
    (joinQuery path query).head? = some '/' := by
  obtain ⟨rest, rfl⟩ : ∃ rest, path = '/' :: rest := List.head?_eq_some_iff.1 h
  rfl

theorem cutAt_joinQuery (h : '?' ∉ path) :
    Text.cutAt '?' (joinQuery path query) = (path, query) := by
  unfold joinQuery
  cases query with
  | none => simpa using Text.cutAt_eq_self h
  | some q => exact Text.cutAt_append h

/-- A path with its query is read as they are, where no character ends them too early. -/
theorem readPathAndQuery_joinQuery (hpath : '#' ∉ path ∧ '?' ∉ path)
    (hquery : ∀ q ∈ query, '#' ∉ q) :
    readPathAndQuery (joinQuery path query)
      = if path.all isPathChar && (query.getD []).all isQueryChar then .ok (path, query)
        else .error .invalidCharacter := by
  have hfragment : '#' ∉ joinQuery path query := by
    unfold joinQuery
    cases query with
    | none => simpa using hpath.1
    | some q => simpa using ⟨hpath.1, hquery q rfl⟩
  have hwhole : (joinQuery path query).takeWhile (· != '#') = joinQuery path query := by
    rw [List.takeWhile_eq_self_iff]
    intro c hc
    rw [bne_iff_ne]
    rintro rfl
    exact hfragment hc
  simp only [readPathAndQuery, hwhole, cutAt_joinQuery hpath.2]

/-- A fragment goes unread. -/
theorem readPathAndQuery_append_fragment (t fragment : Text) :
    readPathAndQuery (t ++ '#' :: fragment) = readPathAndQuery t := by
  have hfront : (t ++ '#' :: fragment).takeWhile (· != '#') = t.takeWhile (· != '#') := by
    induction t with
    | nil => rfl
    | cons c rest ih => simp only [List.cons_append, List.takeWhile_cons, ih]
  unfold readPathAndQuery
  rw [hfront]

/-! ## Paths as targets -/

theorem octetLength_le_of_parse (h : parse t = .ok u) : t.octetLength ≤ maxLength := by
  by_cases hlong : maxLength < t.octetLength
  · rw [parse, if_pos hlong] at h
    cases h
  · omega

theorem parse_of_slash (hlength : t.octetLength ≤ maxLength) (ht : t.head? = some '/') :
    parse t = (readPathAndQuery t).map fun (path, query) => .origin path query := by
  obtain ⟨rest, rfl⟩ : ∃ rest, t = '/' :: rest := List.head?_eq_some_iff.1 ht
  have hstar : ('/' :: rest == ['*']) = false := by simp
  unfold parse
  rw [if_neg (by omega)]
  simp only [List.isEmpty_cons, hstar, List.head?_cons, BEq.rfl]
  cases readPathAndQuery ('/' :: rest) with
  | error e => rfl
  | ok x => rfl

theorem eq_origin_of_parse (h : parse t = .ok u) (ht : t.head? = some '/') :
    ∃ path query, u = .origin path query := by
  rw [parse_of_slash (octetLength_le_of_parse h) ht] at h
  cases hread : readPathAndQuery t with
  | error e =>
    rw [hread] at h
    cases h
  | ok x =>
    rw [hread] at h
    cases h
    exact ⟨_, _, rfl⟩

theorem exists_absolute_of_readAbsolute {scheme : Text} (h : readAbsolute scheme t = .ok u) :
    ∃ name path query, u = .absolute scheme name path query := by
  unfold readAbsolute at h
  split at h
  · cases h
  · obtain ⟨x, -, h⟩ := bind_eq_ok.1 h
    dsimp only at h
    split at h
    · cases h
    · obtain ⟨y, -, h⟩ := bind_eq_ok.1 h
      cases h
      exact ⟨_, _, _, rfl⟩

theorem readAbsolute_ne_origin {scheme : Text} :
    readAbsolute scheme t ≠ .ok (.origin path query) := by
  intro h
  obtain ⟨_, _, _, hform⟩ := exists_absolute_of_readAbsolute h
  cases hform

theorem readAuthority_ne_origin : readAuthority t ≠ .ok (.origin path query) := by
  intro h
  unfold readAuthority at h
  obtain ⟨x, -, h⟩ := bind_eq_ok.1 h
  dsimp only at h
  split at h
  · cases h
  · split at h
    · cases h
    · cases h

/-- A target is a path just where its text starts with a slash. -/
theorem parse_eq_origin_iff :
    parse t = .ok (.origin path query) ↔
      t.octetLength ≤ maxLength ∧ t.head? = some '/' ∧
        readPathAndQuery t = .ok (path, query) := by
  constructor
  · intro h
    have hslash : t.head? = some '/' := by
      unfold parse at h
      split at h
      · cases h
      split at h
      · cases h
      split at h
      · cases h
      split at h
      · next hslash => simpa using hslash
      · cases hscheme : readScheme t with
        | error e => simp [hscheme, bind, Except.bind] at h
        | ok x =>
          simp only [hscheme, bind, Except.bind] at h
          split at h
          · exact absurd h readAbsolute_ne_origin
          · exact absurd h readAuthority_ne_origin
    have hlength : t.octetLength ≤ maxLength := octetLength_le_of_parse h
    refine ⟨hlength, hslash, ?_⟩
    rw [parse_of_slash hlength hslash] at h
    cases hread : readPathAndQuery t with
    | error e => simp [hread, Except.map] at h
    | ok x =>
      obtain ⟨path', query'⟩ := x
      simp only [hread, Except.map] at h
      cases h
      rfl
  · rintro ⟨hlength, hslash, hread⟩
    rw [parse_of_slash hlength hslash, hread]
    rfl

theorem parse_origin_of_append_fragment {fragment : Text} (ht : t.head? = some '/')
    (h : parse (t ++ '#' :: fragment) = .ok (.origin path query)) :
    parse t = .ok (.origin path query) := by
  obtain ⟨hlength, -, hread⟩ := parse_eq_origin_iff.1 h
  rw [Text.octetLength_append] at hlength
  rw [readPathAndQuery_append_fragment] at hread
  exact parse_eq_origin_iff.2 ⟨by omega, ht, hread⟩

/-- A path and a query as a target holds them. -/
structure IsPathTarget (path : Text) (query : Option Text) : Prop where
  slash : path.head? = some '/'
  path : ∀ c ∈ path, isPathChar c = true
  query : ∀ q ∈ query, ∀ c ∈ q, isQueryChar c = true

theorem isPathTarget_of_parse (h : parse t = .ok (.origin path query)) :
    IsPathTarget path query := by
  obtain ⟨-, hslash, hread⟩ := parse_eq_origin_iff.1 h
  refine ⟨head?_of_readPathAndQuery hread hslash, ?_, ?_⟩
  · intro c hc
    exact isPathChar_of_readPathAndQuery hread hc
  · rintro q rfl c hc
    exact isQueryChar_of_readPathAndQuery hread hc

theorem fragment_not_mem_joinQuery (h : IsPathTarget path query) : '#' ∉ joinQuery path query := by
  rw [joinQuery, List.mem_append, not_or]
  refine ⟨fun hc => (plain_of_isPathChar (h.path _ hc)).2.1 rfl, fun hc => ?_⟩
  cases query with
  | none => cases hc
  | some q =>
    rcases List.mem_cons.1 hc with hmark | hc
    · exact absurd hmark (by decide)
    · exact (plain_of_isQueryChar (h.query q rfl _ hc)).2 rfl

/-- A target that is a path is read from its own text. -/
theorem readPathAndQuery_of_isPathTarget (h : IsPathTarget path query) :
    readPathAndQuery (joinQuery path query) = .ok (path, query) := by
  have hall : (path.all isPathChar && (query.getD []).all isQueryChar) = true := by
    rw [Bool.and_eq_true, List.all_eq_true, List.all_eq_true]
    refine ⟨h.path, ?_⟩
    cases query with
    | none => simp
    | some q => exact h.query q rfl
  rw [readPathAndQuery_joinQuery, if_pos hall]
  · constructor
    · intro hc
      exact (plain_of_isPathChar (h.path _ hc)).2.1 rfl
    · intro hc
      exact (plain_of_isPathChar (h.path _ hc)).2.2 rfl
  · intro q hq hc
    exact (plain_of_isQueryChar (h.query q hq _ hc)).2 rfl

/-- What follows a scheme is read as the authority that it starts with, and what is behind that. -/
theorem readAbsolute_append {scheme name rest : Text}
    (hname : ∀ c ∈ name, Authority.isEnd c = false)
    (hrest : ∀ c ∈ rest.head?, Authority.isEnd c = true)
    (h : readAbsolute scheme (name ++ rest) = .ok u) : name ≠ [] ∧
      ∃ path query, readPathAndQuery rest = .ok (path, query) ∧
        u = .absolute scheme ⟨name⟩ (if path.isEmpty then ['/'] else path) query := by
  unfold readAbsolute at h
  split at h
  · cases h
  obtain ⟨⟨a, rest'⟩, hread, h⟩ := bind_eq_ok.1 h
  rw [Authority.read_append_of_isEnd hname hrest] at hread
  cases hcheck : Authority.check name with
  | error e =>
    rw [hcheck] at hread
    cases hread
  | ok a' =>
    obtain rfl := Authority.eq_of_check hcheck
    rw [hcheck] at hread
    cases hread
    dsimp only at h
    split at h
    · cases h
    · next hne =>
      obtain ⟨⟨path, query⟩, hpath, h⟩ := bind_eq_ok.1 h
      cases h
      exact ⟨by simpa using hne, path, query, hpath, rfl⟩

/-! ## Web targets -/

/-- The schemes of web targets. -/
def IsWebScheme (scheme : Text) : Prop :=
  scheme = "http".toList ∨ scheme = "https".toList

variable {scheme : Text}

theorem readScheme_web (hscheme : IsWebScheme scheme) :
    readScheme (scheme ++ ("://".toList ++ t)) = .ok (some (scheme, t)) := by
  have hchars : scheme.all isSchemeChar = true := by
    rcases hscheme with rfl | rfl <;> decide
  have hlower : scheme.lower = scheme := by
    rcases hscheme with rfl | rfl <;> decide
  have hweb : (scheme == "http".toList || scheme == "https".toList) = true := by
    rcases hscheme with rfl | rfl <;> decide
  have hbreak : Text.breakAt (!isSchemeChar ·) (scheme ++ ("://".toList ++ t))
      = (scheme, "://".toList ++ t) := by
    apply Text.breakAt_append
    · intro c hc
      rw [List.all_eq_true.1 hchars c hc, Bool.not_true]
    · rintro c ⟨⟩
      decide
  unfold readScheme
  rw [hbreak]
  simp only [hlower, hweb]
  rfl

theorem parse_web_eq (hscheme : IsWebScheme scheme)
    (hlength : Text.octetLength (scheme ++ ("://".toList ++ t)) ≤ maxLength) :
    parse (scheme ++ ("://".toList ++ t)) = readAbsolute scheme t := by
  have hslash : ((scheme ++ ("://".toList ++ t)).head? == some '/') = false := by
    rcases hscheme with rfl | rfl <;> rfl
  have hstar : (scheme ++ ("://".toList ++ t) == ['*']) = false := by
    rcases hscheme with rfl | rfl <;> rfl
  have hempty : (scheme ++ ("://".toList ++ t)).isEmpty = false := by
    rcases hscheme with rfl | rfl <;> rfl
  unfold parse
  rw [if_neg (by omega), readScheme_web hscheme]
  simp only [hslash, hstar, hempty]
  rfl

/-- An absolute web target is read from its path on as if that stood alone. -/
theorem parse_web {name rest : Text} (hscheme : IsWebScheme scheme)
    (hname : ∀ c ∈ name, Authority.isEnd c = false) (hrest : rest.head? = some '/')
    (h : parse (scheme ++ ("://".toList ++ (name ++ rest))) = .ok u) :
    ∃ path query, u = .absolute scheme ⟨name⟩ path query ∧
      parse rest = .ok (.origin path query) := by
  have hlength := octetLength_le_of_parse h
  rw [parse_web_eq hscheme hlength] at h
  have hend : ∀ c ∈ rest.head?, Authority.isEnd c = true := by
    rw [hrest]
    rintro c ⟨⟩
    rfl
  obtain ⟨-, path, query, hpath, rfl⟩ := readAbsolute_append hname hend h
  obtain ⟨more, rfl⟩ : ∃ more, path = '/' :: more :=
    List.head?_eq_some_iff.1 (head?_of_readPathAndQuery hpath hrest)
  refine ⟨_, _, rfl, parse_eq_origin_iff.2 ⟨?_, hrest, hpath⟩⟩
  rw [Text.octetLength_append, Text.octetLength_append, Text.octetLength_append] at hlength
  omega

theorem parse_http {name rest : Text} (hname : ∀ c ∈ name, Authority.isEnd c = false)
    (hrest : rest.head? = some '/') (h : parse ("http://".toList ++ (name ++ rest)) = .ok u) :
    ∃ path query, u = .absolute "http".toList ⟨name⟩ path query ∧
      parse rest = .ok (.origin path query) :=
  parse_web (.inl rfl) hname hrest h

/-- A text that starts like a web target is read as one under that scheme, with an authority. -/
theorem exists_absolute_of_parse_web (hscheme : IsWebScheme scheme)
    (h : parse (scheme ++ ("://".toList ++ t)) = .ok u) :
    ∃ name path query, u = .absolute scheme name path query ∧
      Authority.check name.text = .ok name := by
  rw [parse_web_eq hscheme (octetLength_le_of_parse h)] at h
  unfold readAbsolute at h
  split at h
  · cases h
  obtain ⟨⟨name, rest⟩, hname, h⟩ := bind_eq_ok.1 h
  dsimp only at h
  split at h
  · cases h
  obtain ⟨y, -, h⟩ := bind_eq_ok.1 h
  cases h
  unfold Authority.read at hname
  obtain ⟨name', hcheck, hname⟩ := bind_eq_ok.1 hname
  cases hname
  refine ⟨name, _, _, rfl, ?_⟩
  obtain rfl := Authority.eq_of_check hcheck
  exact hcheck

theorem isSome_authority?_of_parse_web (hscheme : IsWebScheme scheme)
    (h : parse (scheme ++ ("://".toList ++ t)) = .ok u) : u.authority?.isSome = true := by
  obtain ⟨name, path, query, rfl, -⟩ := exists_absolute_of_parse_web hscheme h
  rfl

/-! ## Absolute targets -/

theorem nil_or_slash_of_readPathAndQuery (h : readPathAndQuery t = .ok (path, query))
    (ht : ∀ c ∈ t.head?, Authority.isEnd c = true) : path = [] ∨ path.head? = some '/' := by
  have hpath : path = (t.takeWhile (· != '#')).takeWhile (!· == '?') := by
    have hcut := (readPathAndQuery_eq_ok_iff.1 h).1
    rw [← Text.fst_cutAt, hcut]
  cases t with
  | nil => exact .inl hpath
  | cons c rest =>
    have hend := ht c rfl
    simp only [Authority.isEnd, Bool.or_eq_true, beq_iff_eq] at hend
    rcases hend with (rfl | rfl) | rfl
    · exact .inr (head?_of_readPathAndQuery h rfl)
    · exact .inl hpath
    · exact .inl hpath

/-- The parts of an absolute target: a name that was checked and that is not empty, and a path. -/
structure IsSiteTarget (name : Authority) (path : Text) (query : Option Text) : Prop where
  checked : Authority.check name.text = .ok name
  named : name.text ≠ []
  target : IsPathTarget path query

theorem check_of_read {name : Authority} {rest : Text} (h : Authority.read t = .ok (name, rest)) :
    Authority.check name.text = .ok name := by
  unfold Authority.read at h
  obtain ⟨checked, hcheck, h⟩ := bind_eq_ok.1 h
  cases h
  obtain rfl := Authority.eq_of_check hcheck
  exact hcheck

theorem isSiteTarget_of_readAbsolute {scheme' : Text} {name : Authority}
    (h : readAbsolute scheme' t = .ok (.absolute scheme name path query)) :
    scheme = scheme' ∧ IsSiteTarget name path query := by
  unfold readAbsolute at h
  split at h
  · cases h
  obtain ⟨⟨name', rest⟩, hname, h⟩ := bind_eq_ok.1 h
  dsimp only at h
  split at h
  · cases h
  next hne =>
  obtain ⟨⟨path', query'⟩, hread, h⟩ := bind_eq_ok.1 h
  cases h
  have hchecked := check_of_read hname
  unfold Authority.read at hname
  obtain ⟨checked, -, hname⟩ := bind_eq_ok.1 hname
  cases hname
  have hrest : ∀ c ∈ (t.dropWhile (!Authority.isEnd ·)).head?, Authority.isEnd c = true := by
    intro c hc
    have hhead := List.head?_dropWhile_not (!Authority.isEnd ·) t
    rw [Option.mem_def.1 hc] at hhead
    simpa using hhead
  have hpath := nil_or_slash_of_readPathAndQuery hread hrest
  refine ⟨rfl, hchecked, by simpa using hne, ?_, ?_, ?_⟩
  · rcases hpath with rfl | hslash
    · rfl
    · obtain ⟨more, rfl⟩ := List.head?_eq_some_iff.1 hslash
      rfl
  · intro c hc
    split at hc
    · rw [List.mem_singleton.1 hc]
      decide
    · exact isPathChar_of_readPathAndQuery hread hc
  · rintro q rfl c hc
    exact isQueryChar_of_readPathAndQuery hread hc

theorem isSiteTarget_of_parse {name : Authority}
    (h : parse t = .ok (.absolute scheme name path query)) : IsSiteTarget name path query := by
  unfold parse at h
  split at h
  · cases h
  split at h
  · cases h
  split at h
  · cases h
  split at h
  · obtain ⟨x, -, h⟩ := bind_eq_ok.1 h
    cases h
  · obtain ⟨x, -, h⟩ := bind_eq_ok.1 h
    split at h
    · exact (isSiteTarget_of_readAbsolute h).2
    · unfold readAuthority at h
      obtain ⟨y, -, h⟩ := bind_eq_ok.1 h
      dsimp only at h
      split at h
      · cases h
      · split at h
        · cases h
        · cases h

/-- The authority of a target that was read has been checked, whatever the form of the target. -/
theorem check_of_parse {name : Authority} (h : parse t = .ok u) (hname : u.authority? = some name) :
    Authority.check name.text = .ok name := by
  cases u with
  | origin path query => cases hname
  | asterisk => cases hname
  | absolute scheme name' path query =>
    cases hname
    exact (isSiteTarget_of_parse h).checked
  | authority name' =>
    cases hname
    unfold parse at h
    split at h
    · cases h
    split at h
    · cases h
    split at h
    · cases h
    split at h
    · obtain ⟨x, -, h⟩ := bind_eq_ok.1 h
      cases h
    · obtain ⟨x, -, h⟩ := bind_eq_ok.1 h
      split at h
      · obtain ⟨_, _, _, hform⟩ := exists_absolute_of_readAbsolute h
        cases hform
      · unfold readAuthority at h
        obtain ⟨⟨front, rest⟩, hread, h⟩ := bind_eq_ok.1 h
        dsimp only at h
        split at h
        · cases h
          exact check_of_read hread
        · split at h
          · cases h
          · cases h

end Uri

end Courier
