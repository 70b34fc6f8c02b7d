import Courier.Web.Reference
import Courier.Proofs.Text

/-!
# Paths of web addresses

Which characters a written path can hold. A walk ends at a place with a name, and no name in it
holds a slash, so that the written path tells the names apart.
-/

namespace Courier.Web

variable {t segment : Text} {c : Char} {escaped : Char → Bool} {above segments a b : List Text}

/-! ## Escapes -/

theorem isHexDigit_upperHexDigit : ∀ n < 16, isHexDigit (upperHexDigit n) = true := by
  decide

theorem mem_percentEncode (h : c ∈ percentEncode escaped t) :
    (c ∈ t ∧ escaped c = false) ∨ c = '%' ∨ isHexDigit c = true := by
  obtain ⟨d, hd, hc⟩ := List.mem_flatMap.1 h
  unfold escapeChar at hc
  split at hc
  · obtain ⟨octet, -, hc⟩ := List.mem_flatMap.1 hc
    have hoctet : octet.toNat < 256 := octet.toNat_lt
    right
    simp only [escapeOctet, List.mem_cons, List.not_mem_nil, or_false] at hc
    rcases hc with rfl | rfl | rfl
    · exact .inl rfl
    · exact .inr (isHexDigit_upperHexDigit _ (by omega))
    · exact .inr (isHexDigit_upperHexDigit _ (by omega))
  · next hd' =>
    rw [List.mem_singleton] at hc
    subst hc
    exact .inl ⟨hd, by simpa using hd'⟩

/-- An escaped text holds no character of the set, the characters of the escapes apart. -/
theorem not_mem_percentEncode (hc : escaped c = true) (hescape : c ≠ '%' ∧ isHexDigit c = false) :
    c ∉ percentEncode escaped t := by
  intro h
  rcases mem_percentEncode h with ⟨-, hplain⟩ | hpercent | hdigit
  · rw [hc] at hplain
    cases hplain
  · exact hescape.1 hpercent
  · rw [hescape.2] at hdigit
    cases hdigit

/-! ## Names of places -/

/-- A name that ends neither at a slash nor with its path. -/
structure IsName (segment : Text) : Prop where
  slash : '/' ∉ segment
  query : '?' ∉ segment
  fragment : '#' ∉ segment

theorem isName_nil : IsName [] :=
  ⟨List.not_mem_nil, List.not_mem_nil, List.not_mem_nil⟩

theorem isName_percentEncode (h : '/' ∉ segment) :
    IsName (percentEncode isPathEscaped segment) := by
  refine ⟨fun hslash => ?_, not_mem_percentEncode ?_ ?_, not_mem_percentEncode ?_ ?_⟩
  · rcases mem_percentEncode hslash with ⟨hslash, -⟩ | hpercent | hdigit
    · exact h hslash
    · exact absurd hpercent (by decide)
    · exact absurd hdigit (by decide)
  all_goals decide

/-- The segments of a path are what its slashes set apart. -/
theorem isSlash_eq_false_of_mem_pathSegments {special : Bool}
    (h : segment ∈ pathSegments special t) : ∀ c ∈ segment, isSlash special c = false := by
  unfold pathSegments at h
  split at h
  · exact Text.eq_false_of_mem_pieces h
  · rw [List.mem_singleton.1 h]
    exact fun c hc => (nomatch hc)

theorem not_mem_of_mem_pathSegments {special : Bool} (h : segment ∈ pathSegments special t) :
    '/' ∉ segment := fun hslash =>
  absurd (isSlash_eq_false_of_mem_pathSegments h '/' hslash) (by simp [isSlash])

theorem pathSegments_ne_nil {special : Bool} : pathSegments special t ≠ [] := by
  unfold pathSegments
  split
  · exact Text.pieces_ne_nil
  · simp

/-! ## Walks -/

/-- A segment that stands for a place of the walk, not for a name. -/
def IsDotted (segment : Text) : Prop :=
  isSingleDot segment = true ∨ isDoubleDot segment = true

theorem mem_of_mem_ascend (h : segment ∈ ascend above) : segment ∈ above := by
  unfold ascend at h
  split at h
  · exact h
  · exact List.dropLast_subset above h

/-- A segment leads up, nowhere, or to a place below. -/
theorem enter_cases (above : List Text) (segment : Text) (last : Bool) :
    enter above segment last = ascend above ++ (if last then [[]] else []) ∨
      enter above segment last = above ++ (if last then [[]] else []) ∨
      enter above segment last = above ++ [percentEncode isPathEscaped segment] := by
  unfold enter
  by_cases hdouble : isDoubleDot segment = true
  · exact .inl (if_pos hdouble)
  · by_cases hsingle : isSingleDot segment = true
    · exact .inr (.inl ((if_neg hdouble).trans (if_pos hsingle)))
    · exact .inr (.inr ((if_neg hdouble).trans (if_neg hsingle)))

/-- A walk keeps what holds of the names above, of the empty name and of the names on its way. -/
theorem forall_mem_walk {P : Text → Prop} (habove : ∀ s ∈ above, P s) (hnil : P [])
    (hname : ∀ s ∈ segments, ¬ IsDotted s → P (percentEncode isPathEscaped s)) :
    ∀ s ∈ walk above segments, P s := by
  induction segments generalizing above with
  | nil => exact habove
  | cons first rest ih =>
    refine ih ?_ fun s hs => hname s (List.mem_cons_of_mem first hs)
    intro s hs
    have hfound : s ∈ (if rest.isEmpty then [[]] else []) → P s := by
      intro hs
      split at hs
      · rw [List.mem_singleton.1 hs]
        exact hnil
      · cases hs
    unfold enter at hs
    dsimp only at hs
    split at hs
    · exact (List.mem_append.1 hs).elim (habove s <| mem_of_mem_ascend ·) hfound
    · next hdouble =>
      split at hs
      · exact (List.mem_append.1 hs).elim (habove s) hfound
      · next hsingle =>
        rcases List.mem_append.1 hs with hs | hs
        · exact habove s hs
        · rw [List.mem_singleton.1 hs]
          refine hname first List.mem_cons_self ?_
          rintro (h | h)
          · exact hsingle h
          · exact hdouble h

/-- A walk leads through names only. -/
theorem isName_of_mem_walk (habove : ∀ s ∈ above, IsName s) (h : ∀ s ∈ segments, '/' ∉ s) :
    ∀ s ∈ walk above segments, IsName s :=
  forall_mem_walk habove isName_nil fun s hs _ => isName_percentEncode (h s hs)

theorem enter_last_ne_nil : enter above segment true ≠ [] := by
  rcases enter_cases above segment true with henter | henter | henter
  all_goals simp [henter]

/-- A walk ends at a place with a name. -/
theorem walk_ne_nil (h : segments ≠ []) : walk above segments ≠ [] := by
  induction segments generalizing above with
  | nil => exact absurd rfl h
  | cons first rest ih =>
    cases rest with
    | nil => exact enter_last_ne_nil
    | cons second rest => exact ih (by simp)

/-! ## Written paths -/

theorem head?_toText (h : segments ≠ []) : (Path.segments segments).toText.head? = some '/' := by
  cases segments with
  | nil => exact absurd rfl h
  | cons first rest => rfl

theorem not_mem_toText (h : ∀ s ∈ segments, IsName s) :
    '#' ∉ (Path.segments segments).toText ∧ '?' ∉ (Path.segments segments).toText := by
  constructor
  · intro hc
    obtain ⟨s, hs, hc⟩ := List.mem_flatMap.1 hc
    rcases List.mem_cons.1 hc with hslash | hc
    · exact absurd hslash (by decide)
    · exact (h s hs).fragment hc
  · intro hc
    obtain ⟨s, hs, hc⟩ := List.mem_flatMap.1 hc
    rcases List.mem_cons.1 hc with hslash | hc
    · exact absurd hslash (by decide)
    · exact (h s hs).query hc

/-- Places whose paths are written alike are one place. -/
theorem eq_of_toText_eq (ha : ∀ s ∈ a, '/' ∉ s) (hb : ∀ s ∈ b, '/' ∉ s)
    (h : (Path.segments a).toText = (Path.segments b).toText) : a = b := by
  have hstart : ∀ l : List Text, ∀ c ∈ (Path.segments l).toText.head?, (c == '/') = true := by
    intro l c hc
    cases l with
    | nil => cases hc
    | cons s rest =>
      cases hc
      rfl
  have hcut : ∀ (s : Text) (rest : List Text), '/' ∉ s →
      Text.breakAt (· == '/') (s ++ (Path.segments rest).toText)
        = (s, (Path.segments rest).toText) := by
    intro s rest hs
    apply Text.breakAt_append _ (hstart rest)
    intro c hc
    rw [beq_eq_false_iff_ne]
    rintro rfl
    exact hs hc
  induction a generalizing b with
  | nil =>
    cases b with
    | nil => rfl
    | cons t more => cases h
  | cons s rest ih =>
    cases b with
    | nil => cases h
    | cons t more =>
      have htail : s ++ (Path.segments rest).toText = t ++ (Path.segments more).toText := by
        simpa [Path.toText] using h
      have hbreak := congrArg (Text.breakAt (· == '/')) htail
      rw [hcut s rest (ha s List.mem_cons_self), hcut t more (hb t List.mem_cons_self)] at hbreak
      rw [Prod.mk.injEq] at hbreak
      rw [hbreak.1]
      congr 1
      apply ih _ _ hbreak.2
      · intro u hu
        exact ha u (List.mem_cons_of_mem s hu)
      · intro u hu
        exact hb u (List.mem_cons_of_mem t hu)

end Courier.Web
