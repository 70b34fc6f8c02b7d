import Courier.Proofs.Fields
import Courier.Proofs.Web.Bootstring
import Courier.Proofs.Web.Composition

/-!
# Names of domains

The name of a domain is made of its labels in ASCII, each of which stands for the same label again.
So the name is its own name, unless a label has become too long to be read.
-/

namespace Courier.Web.Label

variable {t name l d coded : Text} {c : Char} {labels : List Text}

/-! ## Plain characters -/

theorem isPlain_iff : isPlain c = true ↔ c.toNat < 128 ∧ c.isUpper = false := by
  simp [isPlain]

theorem isPlain_toLower : ∀ n < 128, isPlain (Char.ofNat n).toLower = true := by
  decide +kernel

theorem isPlain_of_isDigit (h : c.isDigit = true) : isPlain c = true := by
  simp only [Char.isDigit, Bool.and_eq_true, decide_eq_true_eq, UInt32.le_iff_toNat_le] at h
  have hle : c.toNat ≤ 57 := h.2
  refine isPlain_iff.2 ⟨by omega, decide_eq_false fun hupper => ?_⟩
  have hge : 65 ≤ c.toNat := UInt32.le_iff_toNat_le.1 hupper.1
  omega

theorem toLower_of_isPlain (h : isPlain c = true) : c.toLower = c := by
  have hupper := (isPlain_iff.1 h).2
  exact dif_neg (of_decide_eq_false hupper)

theorem lower_of_isPlain (h : t.all isPlain = true) : t.lower = t :=
  Text.lower_eq_self fun c hc => toLower_of_isPlain (List.all_eq_true.1 h c hc)

/-- A character that a label may hold is plain, if it is one of ASCII. -/
theorem isPlain_of_isPermitted (h : isPermitted c = true) (hascii : c.toNat < 128) :
    isPlain c = true := by
  have hnot : decide (128 ≤ c.toNat) = false := decide_eq_false (Nat.not_le.2 hascii)
  rwa [isPermitted, hnot, Bool.false_and, Bool.or_false] at h

/-! ## Preparation -/

theorem prepare_of_ascii (h : ∀ c ∈ t, c.toNat < 128) : prepare t = t.lower :=
  if_pos (by simpa using h)

theorem prepare_of_isPlain (h : t.all isPlain = true) : prepare t = t := by
  rw [prepare_of_ascii fun c hc => (isPlain_iff.1 (List.all_eq_true.1 h c hc)).1,
    lower_of_isPlain h]

/-! ## Labels in ASCII -/

theorem encode_of_isPlain (h : l.all isPlain = true) : encode l = l :=
  if_pos h

/-- A label that is not plain has a character outside ASCII. -/
theorem exists_wide (h : l.all isPermitted = true) (hplain : ¬ l.all isPlain = true) :
    ∃ c ∈ l, 128 ≤ c.toNat := by
  by_contra hascii
  refine hplain (List.all_eq_true.2 fun c hc => ?_)
  refine isPlain_of_isPermitted (List.all_eq_true.1 h c hc) (Nat.lt_of_not_le fun hle => ?_)
  exact hascii ⟨c, hc, hle⟩

theorem isPermitted_of_isInternational (h : isInternational l = true) :
    l.all isPermitted = true := by
  simp only [isInternational, Bool.and_eq_true] at h
  exact h.1.1.1.1

theorem length_le_of_isInternational (h : isInternational l = true) : l.length ≤ maxLength := by
  simp only [isInternational, Bool.and_eq_true, decide_eq_true_eq] at h
  exact h.2

/-- Of a label with the mark that stands for a label, the rest is plain and not too long. -/
theorem coded_of_decode? (h : decode? l = some d) (hafter : Text.after? codedMark l = some coded) :
    coded.length ≤ maxCodedLength ∧ coded.all isPlain = true := by
  rw [decode?, hafter] at h
  dsimp only at h
  split at h
  · cases h
  · next hcoded =>
    simpa only [Bool.or_eq_true, decide_eq_true_eq, Bool.not_eq_true', not_or, Nat.not_lt,
      Bool.not_eq_false] using hcoded

/-- A label that is not plain stands for itself, if for any. -/
theorem eq_of_decode? (h : decode? l = some d) (hplain : ¬ l.all isPlain = true) :
    d = l ∧ isInternational l = true := by
  cases hafter : Text.after? codedMark l with
  | none =>
    rw [decode?, hafter] at h
    dsimp only at h
    split at h
    · next hlabel =>
      cases h
      exact ⟨rfl, by simpa [hplain] using hlabel⟩
    · cases h
  | some coded =>
    -- mark and rest are plain, and so is the label
    refine absurd ?_ hplain
    rw [Text.after?_eq_some_iff.1 hafter, List.all_append, (coded_of_decode? h hafter).2]
    decide

theorem isPlain_bootstring (h : l.all isPermitted = true) :
    (Bootstring.encode l).all isPlain = true := by
  have hdigits : (Bootstring.write l).digits.all isPlain = true := by
    refine List.all_eq_true.2 fun c hc => ?_
    obtain ⟨n, hn, rfl⟩ := Bootstring.mem_write hc
    obtain ⟨hascii, hupper, -⟩ := Bootstring.digit_plain n hn
    exact isPlain_iff.2 ⟨hascii, hupper⟩
  have hbase : (l.filter (·.toNat < 128)).all isPlain = true := by
    refine List.all_eq_true.2 fun c hc => ?_
    obtain ⟨hmem, hascii⟩ := List.mem_filter.1 hc
    exact isPlain_of_isPermitted (List.all_eq_true.1 h c hmem) (by simpa using hascii)
  rw [Bootstring.encode_eq, List.all_append, hdigits, Bool.and_true, Bootstring.front]
  split
  · rfl
  · rw [List.all_append, hbase]
    decide

/-- The ASCII form of a label is plain. -/
theorem isPlain_encode (h : decode? l = some d) : (encode l).all isPlain = true := by
  by_cases hplain : l.all isPlain = true
  · rwa [encode_of_isPlain hplain]
  · have hpermitted := isPermitted_of_isInternational (eq_of_decode? h hplain).2
    rw [encode, if_neg hplain, List.all_append, isPlain_bootstring hpermitted]
    decide

theorem dot_not_mem_encode (h : '.' ∉ l) : '.' ∉ encode l := by
  unfold encode
  split
  · exact h
  · rw [Bootstring.encode_eq, List.mem_append, List.mem_append]
    rintro (hmark | hfront | hdigits)
    · exact absurd hmark (by decide)
    · unfold Bootstring.front at hfront
      split at hfront
      · cases hfront
      · rcases List.mem_append.1 hfront with hbase | hhyphen
        · exact h (List.mem_filter.1 hbase).1
        · exact absurd hhyphen (by decide)
    · obtain ⟨n, hn, hdot⟩ := Bootstring.mem_write hdigits
      exact (Bootstring.digit_plain n hn).2.2.2 hdot.symm

/-- A label whose ASCII form is not too long to be read. -/
def IsReadable (l : Text) : Prop :=
  ∀ coded ∈ Text.after? codedMark l, coded.length ≤ maxCodedLength

instance (l : Text) : Decidable (IsReadable l) :=
  inferInstanceAs (Decidable (∀ coded ∈ Text.after? codedMark l, coded.length ≤ maxCodedLength))

theorem isReadable_of_decode? (h : decode? l = some d) : IsReadable l :=
  fun _ hafter => (coded_of_decode? h hafter).1

/-- The ASCII form of a label stands for the same label. -/
theorem decode?_encode (h : decode? l = some d) (hread : IsReadable (encode l)) :
    decode? (encode l) = some d := by
  by_cases hplain : l.all isPlain = true
  · rwa [encode_of_isPlain hplain]
  · obtain ⟨rfl, hlabel⟩ := eq_of_decode? h hplain
    have hpermitted := isPermitted_of_isInternational hlabel
    have hafter : Text.after? codedMark (encode d) = some (Bootstring.encode d) := by
      rw [encode, if_neg hplain, Text.after?_append]
    have hshort := hread _ hafter
    have hback := Bootstring.decode?_encode (length_le_of_isInternational hlabel)
      (exists_wide hpermitted hplain)
    unfold decode?
    rw [hafter]
    dsimp only
    rw [isPlain_bootstring hpermitted, hback, Option.filter_some, hlabel]
    simp [Nat.not_lt.2 hshort]

/-! ## Names -/

theorem mapM_decode?_encode {found : List Text} (h : labels.mapM decode? = some found)
    (hread : ∀ l ∈ labels, IsReadable (encode l)) :
    (labels.map encode).mapM decode? = some found := by
  induction labels generalizing found with
  | nil => exact h
  | cons l rest ih =>
    rw [List.mapM_cons] at h
    obtain ⟨d, hd, h⟩ := Option.bind_eq_some_iff.1 h
    obtain ⟨more, hmore, h⟩ := Option.bind_eq_some_iff.1 h
    rw [List.map_cons, List.mapM_cons, decode?_encode hd (hread l List.mem_cons_self),
      ih hmore fun k hk => hread k (List.mem_cons_of_mem l hk)]
    exact h

theorem exists_decode? {found : List Text} (h : labels.mapM decode? = some found) (hl : l ∈ labels) :
    ∃ d, decode? l = some d := by
  induction labels generalizing found with
  | nil => cases hl
  | cons first rest ih =>
    rw [List.mapM_cons] at h
    obtain ⟨d, hd, h⟩ := Option.bind_eq_some_iff.1 h
    obtain ⟨more, hmore, -⟩ := Option.bind_eq_some_iff.1 h
    rcases List.mem_cons.1 hl with rfl | hl
    · exact ⟨d, hd⟩
    · exact ih hmore hl

theorem areLabels_iff : areLabels labels = true ↔
    ∃ found, labels.mapM decode? = some found ∧ directionsFit found = true := by
  unfold areLabels
  cases labels.mapM decode? with
  | none => simp
  | some found => simp

/-- The labels of a plain text make the text again. -/
theorem join_pieces (h : t.all isPlain = true) :
    ['.'].intercalate ((Text.pieces (· == '.') t).map encode) = t := by
  have hsame : (Text.pieces (· == '.') t).map encode = (Text.pieces (· == '.') t).map id := by
    refine List.map_congr_left fun l hl => encode_of_isPlain (List.all_eq_true.2 fun c hc => ?_)
    exact List.all_eq_true.1 h c (Text.mem_of_mem_pieces hl hc)
  rw [hsame, List.map_id]
  exact Text.intercalate_pieces (fun c hc => beq_iff_eq.1 hc) t

/-- The labels of a name are those of the domain in ASCII. -/
theorem eq_of_name? (h : name? t = some name) :
    areLabels (Text.pieces (· == '.') (prepare t)) = true ∧
      name = ['.'].intercalate ((Text.pieces (· == '.') (prepare t)).map encode) := by
  unfold name? at h
  dsimp only at h
  split at h
  · next hlabels =>
    cases h
    exact ⟨hlabels, rfl⟩
  · cases h

theorem pieces_of_name? (h : name? t = some name) : Text.pieces (· == '.') name =
    (Text.pieces (· == '.') (prepare t)).map encode := by
  rw [(eq_of_name? h).2]
  refine Text.pieces_intercalate rfl (by simpa using Text.pieces_ne_nil) fun l hl c hc => ?_
  obtain ⟨k, hk, rfl⟩ := List.mem_map.1 hl
  have hdot : '.' ∉ k := fun hmem =>
    absurd (Text.eq_false_of_mem_pieces hk '.' hmem) (by decide)
  rw [beq_eq_false_iff_ne]
  rintro rfl
  exact dot_not_mem_encode hdot hc

/-- A name is plain. -/
theorem isPlain_of_name? (h : name? t = some name) : name.all isPlain = true := by
  obtain ⟨hlabels, rfl⟩ := eq_of_name? h
  obtain ⟨found, hfound, -⟩ := areLabels_iff.1 hlabels
  refine List.all_eq_true.2 fun c hc => ?_
  rcases Text.mem_intercalate hc with rfl | ⟨l, hl, hc⟩
  · decide
  · obtain ⟨k, hk, rfl⟩ := List.mem_map.1 hl
    obtain ⟨d, hd⟩ := exists_decode? hfound hk
    exact List.all_eq_true.1 (isPlain_encode hd) c hc

theorem mem_encode (hc : c ∈ l) (hascii : c.toNat < 128) : c ∈ encode l := by
  unfold encode
  split
  · exact hc
  · have hbase : c ∈ l.filter (·.toNat < 128) := List.mem_filter.2 ⟨hc, by simpa using hascii⟩
    rw [Bootstring.encode_eq, Bootstring.front, if_neg]
    · simp [hbase]
    · rw [List.isEmpty_iff]
      exact List.ne_nil_of_mem hbase

/-- What is still there after preparation is in the name, unless it cuts labels. -/
theorem Stays.mem_name? (hstays : Stays c) (h : name? t = some name) (hc : c ∈ t) (hdot : c ≠ '.') :
    c ∈ name := by
  have hprepared := hstays.mem_prepare hc
  rw [← Text.intercalate_pieces (p := (· == '.')) (fun d hd => beq_iff_eq.1 hd) (prepare t)]
    at hprepared
  obtain ⟨l, hl, hmem⟩ := (Text.mem_intercalate hprepared).resolve_left hdot
  rw [(eq_of_name? h).2]
  exact Text.mem_intercalate_of_mem (List.mem_map_of_mem hl) (mem_encode hmem hstays.ascii)

/-- The name of a domain in ASCII is the domain in lower case. -/
theorem eq_lower_of_name? (hascii : ∀ c ∈ t, c.toNat < 128) (h : name? t = some name) :
    name = t.lower := by
  have hplain : t.lower.all isPlain = true := by
    refine List.all_eq_true.2 fun c hc => ?_
    obtain ⟨d, hd, rfl⟩ := List.mem_map.1 hc
    have hlower := isPlain_toLower d.toNat (hascii d hd)
    rwa [Char.ofNat_toNat] at hlower
  rw [(eq_of_name? h).2, prepare_of_ascii hascii]
  exact join_pieces hplain

theorem name?_of_isPlain (h : t.all isPlain = true) :
    name? t = if areLabels (Text.pieces (· == '.') t) then some t else none := by
  unfold name?
  rw [prepare_of_isPlain h]
  dsimp only
  rw [join_pieces h]

/-- A text whose labels can be read. -/
def AreReadable (t : Text) : Prop :=
  ∀ l ∈ Text.pieces (· == '.') t, IsReadable l

instance (t : Text) : Decidable (AreReadable t) :=
  inferInstanceAs (Decidable (∀ l ∈ Text.pieces (· == '.') t, IsReadable l))

theorem areReadable_of_areLabels (h : areLabels (Text.pieces (· == '.') t) = true) :
    AreReadable t := by
  intro l hl
  obtain ⟨found, hfound, -⟩ := areLabels_iff.1 h
  obtain ⟨d, hd⟩ := exists_decode? hfound hl
  exact isReadable_of_decode? hd

/-- **Names.** A name is its own name, if its labels can be read. -/
theorem name?_self (h : name? t = some name) :
    name? name = if AreReadable name then some name else none := by
  rw [name?_of_isPlain (isPlain_of_name? h)]
  by_cases hread : AreReadable name
  · rw [if_pos hread, if_pos]
    obtain ⟨found, hfound, hfit⟩ := areLabels_iff.1 (eq_of_name? h).1
    have hpieces := pieces_of_name? h
    refine areLabels_iff.2 ⟨found, ?_, hfit⟩
    rw [hpieces]
    refine mapM_decode?_encode hfound fun l hl => hread _ ?_
    rw [hpieces]
    exact List.mem_map_of_mem hl
  · rw [if_neg hread, if_neg]
    exact fun hlabels => hread (areReadable_of_areLabels hlabels)

example : name? "\uFF22u\u0308cher.test".toList = some "xn--bcher-kva.test".toList := by
  decide +kernel

end Courier.Web.Label
