import Courier.Web.Label

/-!
# What preparation leaves alone

A domain is spelled anew before it is cut into labels. A character of ASCII that is part of no other
character is still there afterwards, whatever stands around it.
-/

namespace Courier.Web.Label

variable {base apart t : Text} {c d : Char}

/-- A character of ASCII that is no capital letter, and neither taken apart nor composed. -/
structure Stays (c : Char) : Prop where
  ascii : c.toNat < 128
  lower : c.toLower = c
  whole : parts c = [c]
  alone : compositions.all (fun entry => !entry.2.contains c.toNat) = true

theorem stays_open : Stays '[' where
  ascii := by decide
  lower := by decide
  whole := by decide +kernel
  alone := by decide +kernel

/-! ## Order -/

theorem mem_insertOrdered : d ∈ insertOrdered c t ↔ d = c ∨ d ∈ t := by
  fun_induction insertOrdered c t with
  | case1 => simp
  | case2 => simp
  | case3 e rest hbehind ih =>
    rw [List.mem_cons, ih, List.mem_cons, or_left_comm]

theorem mem_ordered : d ∈ ordered t ↔ d ∈ t := by
  unfold ordered
  induction t with
  | nil => rfl
  | cons c rest ih => rw [List.foldr_cons, mem_insertOrdered, ih, List.mem_cons]

/-! ## Composition -/

/-- The letters of a syllable are far from ASCII. -/
theorem le_of_mem_syllableParts (hc : isSyllable c = true) (hd : d ∈ syllableParts c) :
    0x1100 ≤ d.toNat := by
  simp only [isSyllable, Bool.and_eq_true, decide_eq_true_eq] at hc
  have hvalue : ∀ n, 0x1100 ≤ n → n < 0xD800 → 0x1100 ≤ (Char.ofNat n).toNat := by
    intro n hlow hhigh
    have hsame : (Char.ofNat n).toNat = n := by
      rw [Char.ofNat, dif_pos (.inl hhigh)]
      rfl
    omega
  simp only [syllableParts, List.mem_append, List.mem_cons, List.not_mem_nil, or_false] at hd
  rcases hd with (rfl | rfl) | hd
  · exact hvalue _ (by omega) (by omega)
  · exact hvalue _ (by omega) (by omega)
  · split at hd
    · cases hd
    · rw [List.mem_singleton.1 hd]
      exact hvalue _ (by omega) (by omega)

theorem syllable?_eq_none (hc : c ∈ t) (hascii : c.toNat < 128) : syllable? t = none := by
  unfold syllable?
  split
  · dsimp only
    split
    · next hsyllable =>
      rw [Bool.and_eq_true, beq_iff_eq] at hsyllable
      have hle := le_of_mem_syllableParts hsyllable.1 (hsyllable.2 ▸ hc)
      omega
    · rfl
  · rfl

namespace Stays

/-- With a character beside it, it is not composed. -/
theorem eq_of_composed? (h : Stays c) (hc : c ∈ t) (ht : composed? t = some d) : t = [c] := by
  unfold composed? at ht
  split at ht
  · rw [List.mem_singleton.1 hc]
  · rw [syllable?_eq_none hc h.ascii] at ht
    have hfind : compositions.find? (·.2 == t.map Char.toNat) = none := by
      refine List.find?_eq_none.2 fun entry hentry hsame => ?_
      have halone := List.all_eq_true.1 h.alone entry hentry
      rw [beq_iff_eq.1 hsame] at halone
      have hmem : c.toNat ∈ t.map Char.toNat := List.mem_map_of_mem hc
      simp [hmem] at halone
    rw [hfind] at ht
    cases ht

theorem mem_join (h : Stays c) (hc : c ∈ t) : c ∈ join t := by
  unfold join
  split
  · next d hd =>
    rw [h.eq_of_composed? hc hd] at hd
    cases hd
    exact List.mem_singleton_self c
  · exact hc

theorem mem_composeFrom (h : Stays c) (hc : c ∈ base ∨ c ∈ apart ∨ c ∈ t) :
    c ∈ composeFrom base apart t := by
  fun_induction composeFrom base apart t with
  | case1 base apart =>
    rcases hc with hc | hc | hc
    · exact List.mem_append_left _ (h.mem_join hc)
    · exact List.mem_append_right _ hc
    · cases hc
  | case2 base apart d rest free hjoins ih =>
    apply ih
    grind
  | case3 base apart d rest free hnot hstarts ih =>
    rw [List.mem_append, List.mem_append]
    rcases hc with hc | hc | hc
    · exact .inl (.inl (h.mem_join hc))
    · exact .inl (.inr hc)
    · refine .inr (ih ?_)
      rcases List.mem_cons.1 hc with rfl | hc
      · exact .inl (List.mem_singleton_self _)
      · exact .inr (.inr hc)
  | case4 base apart d rest free hnot hmark ih =>
    apply ih
    grind

theorem mem_compose (h : Stays c) (hc : c ∈ t) : c ∈ compose t := by
  cases t with
  | nil => cases hc
  | cons d rest =>
    rcases List.mem_cons.1 hc with rfl | hc
    · exact h.mem_composeFrom (.inl (List.mem_singleton_self _))
    · exact h.mem_composeFrom (.inr (.inr hc))

/-- **Preparation.** It is there after preparation if it was before. -/
theorem mem_prepare (h : Stays c) (hc : c ∈ t) : c ∈ prepare t := by
  unfold prepare
  split
  · exact List.mem_map.2 ⟨c, hc, h.lower⟩
  · refine h.mem_compose (mem_ordered.2 (List.mem_flatMap.2 ⟨c, List.mem_flatMap.2 ⟨c, hc, ?_⟩, ?_⟩))
    · rw [image, if_pos h.ascii, h.lower]
      exact List.mem_singleton_self c
    · rw [h.whole]
      exact List.mem_singleton_self c

end Stays

end Courier.Web.Label
