import Courier.Proofs.Field
import Courier.Proofs.Uri

/-!
# What an authority says

An authority that was read is a visible text. What it says of host and port stands behind its last
`@`, so that it says the same without its userinfo.
-/

namespace Courier

namespace Authority

variable {a : Authority} {t : Text} {c : Char}

/-! ## Characters -/

theorem isVisibleChar_of_isPlainChar (h : isPlainChar c = true) : IsVisibleChar c := by
  rw [isPlainChar, Bool.or_eq_true] at h
  rcases h with h | h
  · exact isVisibleChar_of_isAsciiAlphanum h
  · have hall : "!$&'()*+,-.;=_~".toList.all (fun d => decide (IsVisibleChar d)) = true := by
      decide
    exact of_decide_eq_true (List.all_eq_true.1 hall c (List.contains_iff_mem.1 h))

/-- A character that may stand in an authority. -/
def isAuthorityChar (c : Char) : Bool :=
  isPlainChar c || ":[]@%".toList.contains c

theorem isVisibleChar_of_isAuthorityChar (h : isAuthorityChar c = true) : IsVisibleChar c := by
  rw [isAuthorityChar, Bool.or_eq_true] at h
  rcases h with h | h
  · exact isVisibleChar_of_isPlainChar h
  · have hall : ":[]@%".toList.all (fun d => decide (IsVisibleChar d)) = true := by decide
    exact of_decide_eq_true (List.all_eq_true.1 hall c (List.contains_iff_mem.1 h))

theorem space_lt_of_isAuthorityChar (h : isAuthorityChar c = true) : ' ' < c := by
  refine Std.lt_of_le_of_ne (isVisibleChar_of_isAuthorityChar h).1 ?_
  rintro rfl
  exact absurd h (by decide)

/-- A step of the check takes a character of authorities, and a closing bracket only where none was
before. -/
theorem closed_of_step {s s' : Scan} (h : s.step c = .ok s') :
    isAuthorityChar c = true ∧
      (c = ']' ∧ s.closed = false ∧ s'.closed = true ∨ c ≠ ']' ∧ s'.closed = s.closed) := by
  have hne : ∀ {d : Char}, (c == d) = true → d ≠ ']' → c ≠ ']' := by
    intro d hc hd
    rwa [beq_iff_eq.1 hc]
  have hdelimiter : ∀ d ∈ ":[]@%".toList, (c == d) = true → isAuthorityChar c = true := by
    intro d hd hc
    obtain rfl : c = d := beq_iff_eq.1 hc
    rw [isAuthorityChar, List.contains_iff_mem.2 hd, Bool.or_true]
  unfold Scan.step at h
  split at h
  · next hc =>
    refine ⟨hdelimiter ':' (by decide) hc, .inr ⟨hne hc (by decide), ?_⟩⟩
    split at h
    · cases h
    · cases h
      rfl
  split at h
  · next hc =>
    refine ⟨hdelimiter '[' (by decide) hc, .inr ⟨hne hc (by decide), ?_⟩⟩
    split at h
    · cases h
    · cases h
      rfl
  split at h
  · next hc =>
    refine ⟨hdelimiter ']' (by decide) hc, .inl ⟨beq_iff_eq.1 hc, ?_⟩⟩
    split at h
    · cases h
    · next hopen =>
      obtain ⟨-, hopen⟩ : s.opened = true ∧ s.closed = false := by simpa using hopen
      cases h
      exact ⟨hopen, rfl⟩
  next hclose =>
  have hclose : c ≠ ']' := by simpa using hclose
  split at h
  · next hc =>
    cases h
    exact ⟨hdelimiter '@' (by decide) hc, .inr ⟨hclose, rfl⟩⟩
  split at h
  · next hc =>
    cases h
    exact ⟨hdelimiter '%' (by decide) hc, .inr ⟨hclose, rfl⟩⟩
  split at h
  · next hplain =>
    cases h
    exact ⟨by rw [isAuthorityChar, hplain, Bool.true_or], .inr ⟨hclose, rfl⟩⟩
  · cases h

theorem closed_of_foldlM {s s' : Scan} (h : t.foldlM Scan.step s = .ok s') :
    (∀ c ∈ t, isAuthorityChar c = true) ∧ t.count ']' ≤ (!s.closed).toNat := by
  induction t generalizing s with
  | nil => exact ⟨fun _ hc => (nomatch hc), Nat.zero_le _⟩
  | cons d rest ih =>
    rw [List.foldlM_cons] at h
    obtain ⟨next, hstep, hrest⟩ := bind_eq_ok.1 h
    obtain ⟨hd, hclosed⟩ := closed_of_step hstep
    obtain ⟨hchars, hcount⟩ := ih hrest
    refine ⟨List.forall_mem_cons.2 ⟨hd, hchars⟩, ?_⟩
    rcases hclosed with ⟨rfl, hopen, hclose⟩ | ⟨hne, hsame⟩
    · simp only [hclose, hopen, List.count_cons_self, Bool.not_true, Bool.not_false] at hcount ⊢
      exact Nat.succ_le_succ hcount
    · rw [List.count_cons_of_ne hne, ← hsame]
      exact hcount

theorem isAuthorityChar_of_check (h : check t = .ok a) : ∀ c ∈ t, isAuthorityChar c = true := by
  unfold check at h
  obtain ⟨s, hs, -⟩ := bind_eq_ok.1 h
  exact (closed_of_foldlM hs).1

/-- An authority that was read is a visible text. -/
theorem isVisibleChar_of_check (h : check t = .ok a) : ∀ c ∈ t, IsVisibleChar c :=
  fun c hc => isVisibleChar_of_isAuthorityChar (isAuthorityChar_of_check h c hc)

/-- An authority has at most one host in brackets. -/
theorem count_close_of_check (h : check t = .ok a) : t.count ']' ≤ 1 := by
  unfold check at h
  obtain ⟨s, hs, -⟩ := bind_eq_ok.1 h
  exact (closed_of_foldlM hs).2

/-! ## Host and port -/

/-- The authority without its userinfo. -/
def bare (a : Authority) : Authority :=
  ⟨a.hostAndPort⟩

theorem not_mem_hostAndPort (a : Authority) : '@' ∉ a.hostAndPort := by
  intro h
  have hall := List.all_eq_true.1 List.all_takeWhile '@' (List.mem_reverse.1 h)
  exact absurd hall (by decide)

theorem hostAndPort_bare (a : Authority) : a.bare.hostAndPort = a.hostAndPort := by
  unfold bare hostAndPort
  rw [List.reverse_reverse, List.takeWhile_eq_self_iff.2 (List.all_eq_true.1 List.all_takeWhile)]

theorem host_bare (a : Authority) : a.bare.host = a.host := by
  unfold host
  rw [hostAndPort_bare]

/-- What stands before the `@` of an authority says nothing of the port. -/
theorem port?_userinfo {front name : Text} :
    port? ⟨front ++ '@' :: name⟩ = port? ⟨name⟩ := by
  have hreverse : (front ++ '@' :: name).reverse = name.reverse ++ ('@' :: front.reverse) := by
    simp
  by_cases hcolon : ':' ∈ name
  · have hstop : (name.reverse ++ ('@' :: front.reverse)).takeWhile (· != ':')
        = name.reverse.takeWhile (· != ':') := by
      rw [List.takeWhile_append, if_neg]
      intro hall
      have hself := List.takeWhile_eq_self_iff.1
        ((List.takeWhile_sublist (· != ':')).eq_of_length hall)
      exact absurd (hself ':' (List.mem_reverse.2 hcolon)) (by decide)
    unfold port?
    dsimp only
    rw [hreverse, hstop]
    simp [hcolon]
  · have hnone : port? ⟨name⟩ = none := by
      unfold port?
      rw [if_neg (by simpa using hcolon)]
    have hpass : ∀ c ∈ name.reverse, (c != ':') = true := by
      intro c hc
      rw [bne_iff_ne]
      rintro rfl
      exact hcolon (List.mem_reverse.1 hc)
    rw [hnone]
    unfold port?
    split
    · dsimp only
      rw [hreverse, List.takeWhile_append_of_pos hpass,
        Text.toNat?_eq_none (c := '@') (by simp) (by decide) (by decide)]
      rfl
    · rfl

theorem exists_userinfo {a : Authority} (h : '@' ∈ a.text) :
    ∃ front, a.text = front ++ '@' :: a.hostAndPort := by
  have hsplit := List.takeWhile_append_dropWhile (p := (· != '@')) (l := a.text.reverse)
  cases hrest : a.text.reverse.dropWhile (· != '@') with
  | nil =>
    rw [List.dropWhile_eq_nil_iff] at hrest
    exact absurd (hrest '@' (List.mem_reverse.2 h)) (by decide)
  | cons d rest =>
    have hd : d = '@' := by
      have hhead := List.head?_dropWhile_not (· != '@') a.text.reverse
      rw [hrest] at hhead
      simpa using hhead
    subst hd
    refine ⟨rest.reverse, ?_⟩
    rw [hrest] at hsplit
    have htext := congrArg List.reverse hsplit
    rw [List.reverse_reverse, List.reverse_append, List.reverse_cons, List.append_assoc] at htext
    exact htext.symm

/-- An authority without userinfo is host and port. -/
theorem hostAndPort_eq_self (h : '@' ∉ a.text) : a.hostAndPort = a.text := by
  unfold hostAndPort
  rw [List.takeWhile_eq_self_iff.2, List.reverse_reverse]
  intro c hc
  rw [bne_iff_ne]
  rintro rfl
  exact h (List.mem_reverse.1 hc)

theorem port?_bare (a : Authority) : a.bare.port? = a.port? := by
  by_cases hat : '@' ∈ a.text
  · obtain ⟨front, htext⟩ := exists_userinfo hat
    have hself : a = ⟨front ++ '@' :: a.hostAndPort⟩ := by
      obtain ⟨text⟩ := a
      exact congrArg mk htext
    have hport : port? ⟨front ++ '@' :: a.hostAndPort⟩ = a.bare.port? := port?_userinfo
    rw [← hself] at hport
    exact hport.symm
  · rw [bare, hostAndPort_eq_self hat]

/-! ## Written hosts -/

/-- A text that is read as the host of an authority as it is: a plain one, or one in brackets. -/
inductive IsHostText (t : Text) : Prop
  | plain (colon : ':' ∉ t) (bracket : t.head? ≠ some '[')
  | bracketed {inner : Text} (text : t = '[' :: (inner ++ [']'])) (closes : ']' ∉ inner)

/-- A port behind a host, with its colon. -/
def portText (digits : Option Text) : Text :=
  (digits.map (':' :: ·)).getD []

theorem port?_lt (a : Authority) : ∀ n ∈ a.port?, n < 65536 := by
  intro n hn
  unfold port? at hn
  split at hn
  · exact of_decide_eq_true (Option.mem_filter_iff.1 hn).2
  · cases hn

theorem port?_eq_none (h : ':' ∉ t ∨ t.getLast? = some ']') : port? ⟨t⟩ = none := by
  rcases h with hcolon | hlast
  · unfold port?
    rw [if_neg (by simpa using hcolon)]
  · obtain ⟨front, rfl⟩ : ∃ front, t = front ++ [']'] := List.getLast?_eq_some_iff.1 hlast
    unfold port?
    split
    · have hclose : ']' ∈ ((front ++ [']']).reverse.takeWhile (· != ':')).reverse := by simp
      rw [Text.toNat?_eq_none hclose (by decide) (by decide)]
      rfl
    · rfl

theorem port?_append {front digits : Text} (h : ':' ∉ digits) :
    port? ⟨front ++ ':' :: digits⟩ = (Text.toNat? digits).filter (· < 65536) := by
  have hpass : ∀ c ∈ digits.reverse, (c != ':') = true := by
    intro c hc
    rw [bne_iff_ne]
    rintro rfl
    exact h (List.mem_reverse.1 hc)
  have hreverse : (front ++ ':' :: digits).reverse = digits.reverse ++ ':' :: front.reverse := by
    simp
  have hdigits :
      (digits.reverse ++ ':' :: front.reverse).takeWhile (· != ':') = digits.reverse := by
    rw [List.takeWhile_append_of_pos hpass]
    simp
  have hcolon : (front ++ ':' :: digits).contains ':' = true := by simp
  unfold port?
  rw [if_pos hcolon, hreverse, hdigits, List.reverse_reverse]

theorem IsHostText.port?_eq_none (h : IsHostText t) : port? ⟨t⟩ = none := by
  cases h with
  | plain colon => exact Authority.port?_eq_none (.inl colon)
  | @bracketed inner text =>
    have hlast : t.getLast? = some ']' := by
      rw [text, ← List.cons_append, List.getLast?_concat]
    exact Authority.port?_eq_none (.inr hlast)

/-- The host of an authority whose host and port are known. -/
theorem IsHostText.host_eq {digits : Option Text} (h : IsHostText t)
    (ha : a.hostAndPort = t ++ portText digits) : a.host = t := by
  unfold host
  rw [ha]
  cases h with
  | plain colon bracket =>
    have hpass : ∀ c ∈ t, (c != ':') = true := by
      intro c hc
      rw [bne_iff_ne]
      rintro rfl
      exact colon hc
    have hstop : (portText digits).takeWhile (· != ':') = [] := by
      cases digits with
      | none => rfl
      | some digits => rfl
    split
    · next rest hopen =>
      exfalso
      cases t with
      | nil => cases digits <;> cases hopen
      | cons c more =>
        cases hopen
        exact bracket rfl
    · rw [List.takeWhile_append_of_pos hpass, hstop, List.append_nil]
  | @bracketed inner text closes =>
    subst text
    have hpass : ∀ c ∈ inner, (c != ']') = true := by
      intro c hc
      rw [bne_iff_ne]
      rintro rfl
      exact closes hc
    simp [List.takeWhile_append_of_pos hpass]

/-- The port of an authority whose host and port are known. -/
theorem IsHostText.port?_eq {digits : Option Text} (h : IsHostText t)
    (hdigits : ∀ d ∈ digits, ':' ∉ d) (ha : a.hostAndPort = t ++ portText digits) :
    a.port? = (digits.bind Text.toNat?).filter (· < 65536) := by
  rw [← port?_bare, bare, ha]
  cases digits with
  | none =>
    rw [portText, Option.map_none, Option.getD_none, List.append_nil, h.port?_eq_none]
    rfl
  | some digits => exact port?_append (hdigits digits rfl)

end Authority

end Courier
