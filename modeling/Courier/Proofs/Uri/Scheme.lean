import Courier.Proofs.Field
import Courier.Proofs.Uri
import Courier.Web.Reference

/-!
# Targets under any scheme

A text that starts with a scheme and a colon is read as a target in one of two ways. Where the two
slashes of an authority follow, it is an absolute target if it is one at all. Otherwise the colon is
taken for the one before a port, and the text is an authority if it is a target at all.
-/

namespace Courier

variable {scheme rest t name : Text} {u : Uri}

/-! ## Schemes -/

/-- A scheme as addresses have it: a letter first, and no capital letter. -/
structure IsScheme (scheme : Text) : Prop where
  letter : ∃ c, scheme.head? = some c ∧ c.isAlpha = true
  chars : ∀ c ∈ scheme, Web.isSchemeChar c = true
  lower : scheme.lower = scheme

namespace Web

theorem isVisibleChar_of_isSchemeChar {c : Char} (h : isSchemeChar c = true) :
    IsVisibleChar c := by
  simp only [isSchemeChar, Bool.or_eq_true, beq_iff_eq] at h
  rcases h with ((halphanum | rfl) | rfl) | rfl
  · exact isVisibleChar_of_isAsciiAlphanum halphanum
  all_goals decide

theorem isSchemeChar_toLower : ∀ n < 127, isSchemeChar (Char.ofNat n) = true →
    isSchemeChar (Char.ofNat n).toLower = true ∧
      ((Char.ofNat n).isAlpha = true → (Char.ofNat n).toLower.isAlpha = true) := by
  decide +kernel

theorem isScheme_of_splitScheme (h : splitScheme t = some (scheme, rest)) : IsScheme scheme := by
  unfold splitScheme at h
  split at h
  next name after hbreak =>
  have hname : name = t.takeWhile fun c => !!isSchemeChar c := (congrArg Prod.fst hbreak).symm
  have hchars : ∀ c ∈ name, isSchemeChar c = true := by
    intro c hc
    rw [hname] at hc
    simpa using List.all_eq_true.1 List.all_takeWhile c hc
  have hlower : ∀ c ∈ name, isSchemeChar c.toLower = true ∧
      (c.isAlpha = true → c.toLower.isAlpha = true) := by
    intro c hc
    have hle : c.toNat ≤ 126 :=
      (toNat_of_isVisibleChar (isVisibleChar_of_isSchemeChar (hchars c hc))).2
    have hclass := isSchemeChar_toLower c.toNat (Nat.lt_succ_of_le hle)
    rw [Char.ofNat_toNat] at hclass
    exact hclass (hchars c hc)
  split at h
  · next c more more' =>
    split at h
    · next halpha =>
      cases h
      refine ⟨⟨c.toLower, rfl, (hlower c List.mem_cons_self).2 halpha⟩, ?_, Text.lower_lower _⟩
      intro d hd
      obtain ⟨e, he, rfl⟩ := List.mem_map.1 hd
      exact (hlower e he).1
    · cases h
  · cases h

end Web

namespace Uri

theorem isSchemeChar_of_isScheme (h : IsScheme scheme) : ∀ c ∈ scheme, isSchemeChar c = true := by
  intro c hc
  have hchar := h.chars c hc
  rw [Web.isSchemeChar] at hchar
  rw [isSchemeChar, hchar, Bool.true_or]

theorem breakAt_scheme (h : IsScheme scheme) :
    Text.breakAt (!isSchemeChar ·) (scheme ++ ':' :: rest) = (scheme, ':' :: rest) := by
  apply Text.breakAt_append
  · intro c hc
    rw [isSchemeChar_of_isScheme h c hc, Bool.not_true]
  · rintro c ⟨⟩
    decide

theorem readScheme_of_slashes (h : IsScheme scheme) :
    readScheme (scheme ++ ':' :: '/' :: '/' :: t) =
      if maxSchemeLength < scheme.length then .error .schemeTooLong
      else .ok (some (scheme, t)) := by
  unfold readScheme
  rw [breakAt_scheme h]
  dsimp only
  split
  · next after heq =>
    obtain rfl : t = after := by
      simpa using heq
    rw [h.lower]
    split
    · next hweb =>
      rw [Bool.or_eq_true, beq_iff_eq, beq_iff_eq] at hweb
      rcases hweb with rfl | rfl
      all_goals rfl
    · have hlength : ¬ (scheme ++ ':' :: '/' :: '/' :: t).length ≤ 3 := by
        obtain ⟨c, hc, -⟩ := h.letter
        obtain ⟨more, rfl⟩ := List.head?_eq_some_iff.1 hc
        simp only [List.length_append, List.length_cons]
        omega
      rw [if_neg hlength]
  · next hslashes => exact absurd rfl (hslashes t)

theorem readScheme_of_not_slashes (h : IsScheme scheme)
    (hrest : ∀ more, rest ≠ '/' :: '/' :: more) :
    readScheme (scheme ++ ':' :: rest) = .ok none := by
  unfold readScheme
  rw [breakAt_scheme h]
  dsimp only
  split
  · next after heq =>
    exact absurd (List.cons.inj heq).2 (hrest after)
  · rfl

/-! ## Targets -/

theorem readScheme_of_parse (h : IsScheme scheme) (hu : parse (scheme ++ ':' :: rest) = .ok u) :
    (∃ name after, readScheme (scheme ++ ':' :: rest) = .ok (some (name, after)) ∧
      readAbsolute name after = .ok u) ∨
    (readScheme (scheme ++ ':' :: rest) = .ok none ∧
      readAuthority (scheme ++ ':' :: rest) = .ok u) := by
  obtain ⟨c, hc, halpha⟩ := h.letter
  obtain ⟨more, rfl⟩ := List.head?_eq_some_iff.1 hc
  have hslash : c ≠ '/' := by
    rintro rfl
    exact absurd halpha (by decide)
  unfold parse at hu
  split at hu
  · cases hu
  split at hu
  · cases hu
  split at hu
  · next hstar => simp at hstar
  split at hu
  · next hhead => exact absurd (by simpa using hhead) hslash
  · obtain ⟨found, hfound, hu⟩ := bind_eq_ok.1 hu
    cases found with
    | some pair => exact .inl ⟨pair.1, pair.2, hfound, hu⟩
    | none => exact .inr ⟨hfound, hu⟩

/-- With the two slashes, a target is an absolute one, on the site that stands behind them. -/
theorem eq_absolute_of_parse (h : IsScheme scheme) (hname : ∀ c ∈ name, Authority.isEnd c = false)
    (hrest : ∀ c ∈ rest.head?, Authority.isEnd c = true)
    (hu : parse (scheme ++ ':' :: '/' :: '/' :: (name ++ rest)) = .ok u) :
    name ≠ [] ∧ ∃ path query, u = .absolute scheme ⟨name⟩ path query := by
  have hscheme := readScheme_of_slashes (t := name ++ rest) h
  rcases readScheme_of_parse h hu with ⟨found, after, hfound, hread⟩ | ⟨hnone, -⟩
  · rw [hfound] at hscheme
    split at hscheme
    · cases hscheme
    cases hscheme
    obtain ⟨hne, path, query, -, rfl⟩ := readAbsolute_append hname hrest hread
    exact ⟨hne, _, query, rfl⟩
  · rw [hnone] at hscheme
    split at hscheme
    · cases hscheme
    · cases hscheme

/-- Without them, a target is an authority, and is the whole text. -/
theorem eq_authority_of_parse (h : IsScheme scheme) (hrest : ∀ more, rest ≠ '/' :: '/' :: more)
    (hu : parse (scheme ++ ':' :: rest) = .ok u) :
    u = .authority ⟨scheme ++ ':' :: rest⟩ ∧ ∀ c ∈ rest, Authority.isEnd c = false := by
  rcases readScheme_of_parse h hu with ⟨found, after, hfound, -⟩ | ⟨-, hread⟩
  · rw [readScheme_of_not_slashes h hrest] at hfound
    cases hfound
  · unfold readAuthority at hread
    obtain ⟨⟨a, back⟩, ha, hread⟩ := bind_eq_ok.1 hread
    unfold Authority.read at ha
    obtain ⟨a', hcheck, ha⟩ := bind_eq_ok.1 ha
    obtain rfl := Authority.eq_of_check hcheck
    cases ha
    dsimp only at hread
    split at hread
    · next hempty =>
      cases hread
      have hback : (scheme ++ ':' :: rest).dropWhile (!Authority.isEnd ·) = [] :=
        List.isEmpty_iff.1 hempty
      have hall : ∀ c ∈ scheme ++ ':' :: rest, (!Authority.isEnd c) = true :=
        List.dropWhile_eq_nil_iff.1 hback
      have hwhole := List.takeWhile_eq_self_iff.2 hall
      refine ⟨?_, fun c hc => ?_⟩
      · exact congrArg (fun t => Uri.authority ⟨t⟩) hwhole
      · have hc' := hall c (List.mem_append_right _ (List.mem_cons_of_mem _ hc))
        simpa using hc'
    · split at hread
      · cases hread
      · cases hread

end Uri

end Courier
