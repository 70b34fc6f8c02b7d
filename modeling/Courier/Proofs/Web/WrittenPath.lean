import Courier.Proofs.Field
import Courier.Proofs.Web.Paths
import Mathlib.Data.List.Infix

/-!
# Written paths

The path of an address that was read is read back from its written form. Its names hold no slash
and nothing that is escaped, and none of them is a dotted one, so that a walk along them does not
leave them: an escape in a dotted name is that of a dot, and a dot is never escaped.
-/

namespace Courier.Web

variable {t segment : Text} {c : Char} {escaped : Char → Bool} {above names : List Text}

/-! ## Escaped texts -/

theorem percentEncode_eq_self (h : ∀ c ∈ t, escaped c = false) : percentEncode escaped t = t := by
  induction t with
  | nil => rfl
  | cons c rest ih =>
    have hc : escapeChar escaped c = [c] := by
      rw [escapeChar, h c List.mem_cons_self, if_neg Bool.false_ne_true]
    have hrest := ih fun d hd => h d (List.mem_cons_of_mem c hd)
    rw [percentEncode, List.flatMap_cons, hc, ← percentEncode, hrest]
    rfl

/-- A set that leaves escapes alone leaves an escaped text alone. -/
theorem eq_false_of_mem_percentEncode (hescape : escaped '%' = false)
    (hdigits : ∀ d, isHexDigit d = true → escaped d = false) :
    ∀ c ∈ percentEncode escaped t, escaped c = false := by
  intro c hc
  rcases mem_percentEncode hc with ⟨-, hplain⟩ | rfl | hdigit
  · exact hplain
  · exact hescape
  · exact hdigits c hdigit

theorem exists_of_isHexDigit (h : isHexDigit c = true) : ∃ n < 128, c = Char.ofNat n := by
  have hle : c ≤ 'f' := by
    simp only [isHexDigit, Char.isDigit, Bool.or_eq_true, Bool.and_eq_true, decide_eq_true_eq] at h
    rcases h with (⟨-, h⟩ | ⟨-, h⟩) | ⟨-, h⟩
    · exact Std.le_trans (show c ≤ '9' from h) (by decide)
    · exact h
    · exact Std.le_trans h (by decide)
  refine ⟨c.toNat, ?_, (Char.ofNat_toNat c).symm⟩
  have hnat : c.toNat ≤ 'f'.toNat := hle
  exact Nat.lt_of_le_of_lt hnat (by decide)

theorem plain_of_isHexDigit : ∀ n < 128, isHexDigit (Char.ofNat n) = true →
    (isSlash true (Char.ofNat n) = false ∧ isPathEscaped (Char.ofNat n) = false) ∧
      isUserinfoEscaped (Char.ofNat n) = false ∧ isQueryEscaped true (Char.ofNat n) = false := by
  decide +kernel

theorem percentEncode_append {a b : Text} :
    percentEncode escaped (a ++ b) = percentEncode escaped a ++ percentEncode escaped b :=
  List.flatMap_append

/-! ## Dots -/

/-- The dotted segments, in lower case. -/
def dotted : List Text :=
  [".", "%2e", "..", ".%2e", "%2e.", "%2e%2e"].map String.toList

theorem isDotted_iff : IsDotted segment ↔ segment.lower ∈ dotted := by
  simp only [IsDotted, isSingleDot, isDoubleDot, dotted, Bool.or_eq_true, beq_iff_eq, List.map_cons,
    List.map_nil, List.mem_cons, List.not_mem_nil, or_false, or_assoc]

/-- Whether a text that starts with an escape starts with that of a dot. -/
def startsWithDot : Text → Bool
  | '%' :: high :: low :: _ => high == '2' && low == 'e'
  | _ => true

/-- Every escape in a dotted segment is that of a dot. -/
theorem startsWithDot_of_mem_tails : ∀ d ∈ dotted, ∀ t ∈ d.tails, startsWithDot t = true := by
  decide

theorem octet_of_dot : ∀ n < 256, (upperHexDigit (n / 16)).toLower = '2' →
    (upperHexDigit (n % 16)).toLower = 'e' → n = 46 := by
  decide +kernel

/-- The first octet of a character is that of a dot just for the dot. -/
theorem exists_octet (c : Char) :
    ∃ b rest, Octets.ofText [c] = b :: rest ∧ (b.toNat = 46 → c = '.') := by
  rw [Octets.ofText_eq_flatMap, List.flatMap_cons, List.flatMap_nil, List.append_nil]
  unfold String.utf8EncodeChar
  dsimp only
  split
  · refine ⟨_, _, rfl, fun h => ?_⟩
    rw [UInt8.toNat_ofNat'] at h
    have hdot : c.val.toNat = 46 := by omega
    exact Char.ext (UInt32.toNat_inj.1 hdot)
  split
  · refine ⟨_, _, rfl, fun h => ?_⟩
    rw [UInt8.toNat_ofNat'] at h
    omega
  split
  all_goals
    refine ⟨_, _, rfl, fun h => ?_⟩
    rw [UInt8.toNat_ofNat'] at h
    omega

/-- Escaping makes no segment a dotted one. -/
theorem percentEncode_of_isDotted (h : IsDotted (percentEncode isPathEscaped segment)) :
    percentEncode isPathEscaped segment = segment := by
  apply percentEncode_eq_self
  intro c hc
  by_contra hescaped
  rw [Bool.not_eq_false] at hescaped
  obtain ⟨front, back, rfl⟩ := List.append_of_mem hc
  obtain ⟨b, rest, hoctets, hdot⟩ := exists_octet c
  have hchar : escapeChar isPathEscaped c =
      '%' :: upperHexDigit (b.toNat / 16) :: upperHexDigit (b.toNat % 16) ::
        rest.flatMap escapeOctet := by
    rw [escapeChar, if_pos hescaped, hoctets, List.flatMap_cons]
    rfl
  have hwhole : (percentEncode isPathEscaped (front ++ c :: back)).lower =
      (percentEncode isPathEscaped front).lower ++
        '%' :: (upperHexDigit (b.toNat / 16)).toLower :: (upperHexDigit (b.toNat % 16)).toLower ::
          Text.lower (rest.flatMap escapeOctet ++ percentEncode isPathEscaped back) := by
    rw [percentEncode_append, percentEncode, percentEncode, List.flatMap_cons, hchar]
    simp [Text.lower, percentEncode]
  rw [isDotted_iff, hwhole] at h
  have hstarts := startsWithDot_of_mem_tails _ h _
    ((List.mem_tails _ _).2 (List.suffix_append _ _))
  rw [startsWithDot, Bool.and_eq_true, beq_iff_eq, beq_iff_eq] at hstarts
  obtain ⟨hhigh, hlow⟩ := hstarts
  have hdot := hdot (octet_of_dot b.toNat b.toNat_lt hhigh hlow)
  rw [hdot] at hescaped
  exact absurd hescaped (by decide)

theorem not_isDotted_percentEncode (h : ¬ IsDotted segment) :
    ¬ IsDotted (percentEncode isPathEscaped segment) := by
  intro hdotted
  rw [percentEncode_of_isDotted hdotted] at hdotted
  exact h hdotted

/-! ## Written names -/

/-- A name as it stands in a written path: escaped, without a slash, and not a dotted one. -/
structure IsWrittenName (segment : Text) : Prop where
  slash : ∀ c ∈ segment, isSlash true c = false
  escaped : ∀ c ∈ segment, isPathEscaped c = false
  plain : ¬ IsDotted segment

theorem IsWrittenName.isName (h : IsWrittenName segment) : IsName segment where
  slash := fun hc => absurd (h.slash '/' hc) (by decide)
  query := fun hc => absurd (h.escaped '?' hc) (by decide)
  fragment := fun hc => absurd (h.escaped '#' hc) (by decide)

theorem isWrittenName_nil : IsWrittenName [] :=
  ⟨fun _ hc => (nomatch hc), fun _ hc => (nomatch hc), by simp [isDotted_iff, dotted, Text.lower]⟩

theorem isWrittenName_percentEncode (hslash : ∀ c ∈ segment, isSlash true c = false)
    (hplain : ¬ IsDotted segment) : IsWrittenName (percentEncode isPathEscaped segment) := by
  have hdigits : ∀ d, isHexDigit d = true → isSlash true d = false ∧ isPathEscaped d = false := by
    intro d hd
    obtain ⟨n, hn, rfl⟩ := exists_of_isHexDigit hd
    exact (plain_of_isHexDigit n hn hd).1
  refine ⟨fun c hc => ?_, ?_, not_isDotted_percentEncode hplain⟩
  · rcases mem_percentEncode hc with ⟨hmem, -⟩ | rfl | hdigit
    · exact hslash c hmem
    · rfl
    · exact (hdigits c hdigit).1
  · exact eq_false_of_mem_percentEncode (by decide) fun d hd => (hdigits d hd).2

/-- Written names lead where they are. -/
theorem walk_of_written (h : ∀ s ∈ names, IsWrittenName s) : walk above names = above ++ names := by
  induction names generalizing above with
  | nil => exact (List.append_nil above).symm
  | cons first rest ih =>
    have hfirst := h first List.mem_cons_self
    have hplain := hfirst.plain
    rw [IsDotted, not_or, Bool.not_eq_true, Bool.not_eq_true] at hplain
    have henter : enter above first rest.isEmpty = above ++ [first] := by
      rw [enter, hplain.1, hplain.2, percentEncode_eq_self hfirst.escaped]
      rfl
    rw [walk, henter, ih fun s hs => h s (List.mem_cons_of_mem first hs), List.append_assoc]
    rfl

theorem toText_cons : (Path.segments (segment :: names)).toText =
    '/' :: ['/'].intercalate (segment :: names) := by
  induction names generalizing segment with
  | nil => simp [Path.toText]
  | cons second rest ih =>
    have hrest := @ih second
    rw [List.intercalate_cons_cons]
    simp only [Path.toText, List.flatMap_cons] at hrest ⊢
    rw [hrest]
    simp

/-- A written path has the segments that were written. -/
theorem pathSegments_toText (hne : names ≠ []) (h : ∀ s ∈ names, ∀ c ∈ s, isSlash true c = false) :
    pathSegments true (Path.segments names).toText = names := by
  obtain ⟨first, rest, rfl⟩ := List.exists_cons_of_ne_nil hne
  rw [toText_cons]
  exact Text.pieces_intercalate rfl hne h

theorem walk_toText (hne : names ≠ []) (h : ∀ s ∈ names, IsWrittenName s) :
    walk [] (pathSegments true (Path.segments names).toText) = names := by
  rw [pathSegments_toText hne fun s hs => (h s hs).slash, walk_of_written h, List.nil_append]

end Courier.Web
