import Courier.Proofs.Fields
import Mathlib.Data.List.Induction

/-!
# Header lists as ordered multimaps

What a change does to the values of a name depends on these values alone, in whatever case the
name is asked for. So a run of changes can be followed name by name, while the entries of all other
names keep their values and their order. Where an entry stands shows in two ways: replaced values
stand in the place of the first old one, and the names come in the order of their first entries.
-/

namespace Courier

/-! ## Changes -/

/-- One change of a header list. -/
inductive FieldChange
  | append (name : FieldName) (value : FieldValue)
  | insert (name : FieldName) (value : FieldValue)
  | replaceAll (name : FieldName) (values : List FieldValue)
  | remove (name : Text)

namespace FieldChange

/-- The name that a change is about, as it is given. -/
def name : FieldChange → Text
  | append n _ | insert n _ | replaceAll n _ => n.text
  | remove name => name

/-- The header list after a change. -/
def apply (h : Fields) : FieldChange → Fields
  | append n value => h.append n value
  | insert n value => h.insert n value
  | replaceAll n values => h.replaceAll n values
  | remove name => (h.remove name).2

/-- What a change makes of the values of its name. -/
def left (values : List FieldValue) : FieldChange → List FieldValue
  | append _ value => values ++ [value]
  | insert _ value => [value]
  | replaceAll _ values => values
  | remove _ => []

/-- What a change makes of the values of a name, whether it is about that name or another. -/
def leave (name : Text) (values : List FieldValue) (c : FieldChange) : List FieldValue :=
  if c.name.sameLetters name then c.left values else values

end FieldChange

theorem FieldName.answers_eq_sameLetters (n : FieldName) (name : Text) :
    n.answers name = n.text.sameLetters name := by
  rw [answers, Text.sameLetters, lower_text]

namespace Fields

variable {h : Fields} {name other : Text} {n : FieldName}

/-! ## Values -/

theorem getAll_append (v : FieldValue) : (h.append n v).getAll name =
    if n.answers name then h.getAll name ++ [v] else h.getAll name := by
  unfold getAll append
  rw [List.filter_append, List.map_append]
  by_cases hn : n.answers name = true <;> simp [hn]

/-- A name that was dropped has no values, in whatever case it was given. -/
theorem getAll_erase_of_sameLetters (hname : other.lower = name.lower) :
    (h.erase other).getAll name = [] := by
  unfold getAll erase
  rw [List.map_eq_nil_iff, List.filter_eq_nil_iff]
  intro f hf hanswers
  have hother : f.name.answers other = true := by
    rw [FieldName.answers_iff, FieldName.answers_iff.1 hanswers, hname]
  simp [hother] at hf

/-- A change acts on the values of each name apart. -/
theorem getAll_apply (c : FieldChange) : (c.apply h).getAll name = c.leave name (h.getAll name) := by
  have hreplaced : ∀ (n : FieldName) values, (h.replaceAll n values).getAll name =
      if n.text.sameLetters name then values else h.getAll name := by
    intro n values
    rw [← FieldName.answers_eq_sameLetters]
    split
    · next hn => exact getAll_replaceAll (FieldName.answers_iff.1 hn)
    · next hn => exact getAll_replaceAll_of_ne fun heq => hn (FieldName.answers_iff.2 heq)
  cases c with
  | append n v =>
    exact (getAll_append v).trans (by rw [FieldName.answers_eq_sameLetters]; rfl)
  | insert n v => exact hreplaced n [v]
  | replaceAll n values => exact hreplaced n values
  | remove asked =>
    change (h.erase asked).getAll name = if asked.sameLetters name then [] else h.getAll name
    rw [Text.sameLetters]
    split
    · next hname => exact getAll_erase_of_sameLetters (beq_iff_eq.1 hname)
    · next hname => exact getAll_erase fun heq => hname (beq_iff_eq.2 heq)

/-- A run of changes acts on the values of each name apart. -/
theorem getAll_foldl_apply (changes : List FieldChange) (h : Fields) :
    (changes.foldl FieldChange.apply h).getAll name =
      changes.foldl (FieldChange.leave name) (h.getAll name) := by
  induction changes generalizing h with
  | nil => rfl
  | cons c rest ih => rw [List.foldl_cons, List.foldl_cons, ih, getAll_apply]

theorem get?_eq_find? :
    h.get? name = (h.entries.find? (·.name.answers name)).map (·.value) := by
  rw [get?, getAll, List.head?_map, List.head?_filter]

theorem contains_iff_getAll_ne_nil : h.contains name = true ↔ h.getAll name ≠ [] := by
  constructor
  · intro hc hnone
    obtain ⟨f, hf, hanswers⟩ := List.any_eq_true.1 hc
    rw [getAll, List.map_eq_nil_iff, List.filter_eq_nil_iff] at hnone
    exact hnone f hf hanswers
  · exact contains_of_getAll_ne_nil

/-- Dropping a name tells whether it was there. -/
theorem fst_remove : (h.remove name).1 = true ↔ h.getAll name ≠ [] := by
  rw [← contains_iff_getAll_ne_nil, contains, List.any_eq_true]
  change (h.size != (h.erase name).size) = true ↔ _
  rw [bne_iff_ne, ne_eq, eq_comm]
  unfold size erase
  rw [List.length_filter_eq_length_iff]
  simp

/-! ## Entries of other names -/

/-- A change lets the entries alone that are not of its name. -/
theorem filter_apply (c : FieldChange) {p : Field → Bool}
    (hp : ∀ f, f.name.answers c.name = true → p f = false) :
    (c.apply h).entries.filter p = h.entries.filter p := by
  have hreplaced : ∀ (n : FieldName) values, n.text = c.name →
      (h.replaceAll n values).entries.filter p = h.entries.filter p := by
    intro n values hn
    apply filter_replaceAll
    rintro f rfl
    exact hp f (hn ▸ FieldName.answers_text_iff.2 rfl)
  cases c with
  | append n v =>
    have hnew : p ⟨n, v⟩ = false := hp _ (FieldName.answers_text_iff.2 rfl)
    simp [FieldChange.apply, append, hnew]
  | insert n v => exact hreplaced n [v] rfl
  | replaceAll n values => exact hreplaced n values rfl
  | remove asked =>
    change (h.entries.filter (!·.name.answers asked)).filter p = _
    rw [List.filter_filter]
    apply List.filter_congr
    intro f _
    by_cases hf : f.name.answers asked = true
    · simp [hp f hf]
    · simp [hf]

/-! ## Names -/

/-- Where the first entry of a name stands; behind all entries if there is none. -/
def place (h : Fields) (n : FieldName) : Nat :=
  h.entries.findIdx (·.name == n)

theorem names_concat (list : List Field) (f : Field) : (mk (list ++ [f])).names =
    if f.name ∈ (mk list).names then (mk list).names else (mk list).names ++ [f.name] := by
  simp [names, List.foldl_append]

theorem mem_names_iff : n ∈ h.names ↔ n ∈ h.entries.map (·.name) := by
  obtain ⟨list⟩ := h
  induction list using List.reverseRecOn with
  | nil => simp [names]
  | append_singleton list f ih =>
    rw [names_concat, List.map_append, List.mem_append, ← ih]
    split
    · next hseen =>
      constructor
      · exact .inl
      · rintro (hn | hn)
        · exact hn
        · rwa [List.mem_singleton.1 hn]
    · rw [List.mem_append]
      rfl

theorem place_lt_iff : h.place n < h.entries.length ↔ n ∈ h.names := by
  rw [place, List.findIdx_lt_length, mem_names_iff, List.mem_map]
  simp

/-- A name that is there stays in its place when an entry is added at the end. -/
theorem place_concat {list : List Field} {f : Field} (hn : n ∈ (mk list).names) :
    (mk (list ++ [f])).place n = (mk list).place n := by
  have hlt : list.findIdx (·.name == n) < list.length := place_lt_iff.2 hn
  rw [place, List.findIdx_append, if_pos hlt]
  rfl

theorem pairwise_names : h.names.Pairwise (h.place · < h.place ·) := by
  obtain ⟨list⟩ := h
  -- From the end: one more entry moves no name, and a new name stands behind all others.
  induction list using List.reverseRecOn with
  | nil => exact List.Pairwise.nil
  | append_singleton list f ih =>
    have hkept : (mk list).names.Pairwise
        ((mk (list ++ [f])).place · < (mk (list ++ [f])).place ·) := by
      refine ih.imp_of_mem fun hm hn hlt => ?_
      rwa [place_concat hm, place_concat hn]
    rw [names_concat]
    split
    · exact hkept
    · next hnew =>
      refine List.pairwise_append.2 ⟨hkept, List.pairwise_singleton _ _, ?_⟩
      intro m hm n hn
      rw [List.mem_singleton.1 hn, place_concat hm]
      refine Nat.lt_of_lt_of_le (place_lt_iff.2 hm) ?_
      have habsent : ¬ list.findIdx (·.name == f.name) < list.length := fun hlt =>
        hnew (place_lt_iff.1 hlt)
      rw [place, List.findIdx_append, if_neg habsent]
      exact Nat.le_add_left _ _

theorem nodup_names : h.names.Nodup := by
  refine pairwise_names.imp fun hlt heq => ?_
  rw [heq] at hlt
  exact Nat.lt_irrefl _ hlt

/-! ## Runs of changes -/

/-- **A header list is an ordered multimap.** After any run of changes, a name has the values that
the changes leave it, in whatever case it is asked for. One more change keeps the entries of all
other names, in their order. A value is added at the end of the list; values are replaced where the
first old one stood, or at the end if there was none; dropping a name tells whether it was there.
The first value is that of the first entry, a name is there if it has values, and each name that is
there is listed once, in the order of the first entries. -/
theorem ordered_multimap (start : Fields) (changes : List FieldChange) :
    let h := changes.foldl FieldChange.apply start
    (∀ name, h.getAll name = changes.foldl (FieldChange.leave name) (start.getAll name)) ∧
    (∀ c : FieldChange, (c.apply h).entries.filter (!·.name.answers c.name) =
      h.entries.filter (!·.name.answers c.name)) ∧
    (∀ n value, (h.append n value).entries = h.entries ++ [⟨n, value⟩]) ∧
    (∀ n values before first after, h.entries = before ++ first :: after →
      (∀ f ∈ before, f.name ≠ n) → first.name = n →
      (h.replaceAll n values).entries =
        before ++ values.map (⟨n, ·⟩) ++ after.filter (·.name != n)) ∧
    (∀ n values, (∀ f ∈ h.entries, f.name ≠ n) →
      (h.replaceAll n values).entries = h.entries ++ values.map (⟨n, ·⟩)) ∧
    (∀ name, (h.remove name).1 = true ↔ h.getAll name ≠ []) ∧
    (∀ name, h.get? name = (h.getAll name).head? ∧
      h.get? name = (h.entries.find? (·.name.answers name)).map (·.value)) ∧
    (∀ name, h.contains name = true ↔ h.getAll name ≠ []) ∧
    (∀ n, n ∈ h.names ↔ h.getAll n.text ≠ []) ∧
    h.names.Nodup ∧ h.names.Pairwise (h.place · < h.place ·) := by
  intro h
  refine ⟨fun name => getAll_foldl_apply changes start, ?_, fun _ _ => rfl, ?_, ?_,
    fun _ => fst_remove, fun _ => ⟨rfl, get?_eq_find?⟩, fun _ => contains_iff_getAll_ne_nil, ?_,
    nodup_names, pairwise_names⟩
  · intro c
    apply filter_apply
    intro f hf
    rw [hf]
    rfl
  · intro n values before first after hentries hbefore hfirst
    exact entries_replaceAll_of_split hentries hbefore hfirst
  · intro n values habsent
    exact entries_replaceAll_of_absent habsent
  · intro n
    rw [mem_names_iff, ← contains_iff_getAll_ne_nil, contains_iff, FieldName.lower_text, List.mem_map]
    simp only [FieldName.text_inj]

/-- A name twice around another, a third one set, and the one between dropped. -/
def shuffle : List FieldChange :=
  [.append .accept { octets := [97] }, .append .host { octets := [98] },
    .append .accept { octets := [99] }, .insert .cookie { octets := [100] },
    .remove "HOST".toList]

theorem ordered_multimap_shuffle :
    (shuffle.foldl FieldChange.apply {}).getAll "Accept".toList =
      [{ octets := [97] }, { octets := [99] }] ∧
    ((shuffle.foldl FieldChange.apply {}).replaceAll .accept
      [{ octets := [120] }, { octets := [121] }]).entries =
      [⟨.accept, { octets := [120] }⟩, ⟨.accept, { octets := [121] }⟩,
        ⟨.cookie, { octets := [100] }⟩] ∧
    ((shuffle.foldl FieldChange.apply {}).replaceAll .host [{ octets := [120] }]).entries =
      (shuffle.foldl FieldChange.apply {}).entries ++ [⟨.host, { octets := [120] }⟩] := by
  obtain ⟨hvalues, -, -, hsplit, habsent, -⟩ := ordered_multimap {} shuffle
  refine ⟨hvalues _, ?_, ?_⟩
  · exact hsplit .accept _ [] ⟨.accept, { octets := [97] }⟩ _ rfl (List.forall_mem_nil _) rfl
  · exact habsent .host _ (by decide)

end Fields

end Courier
