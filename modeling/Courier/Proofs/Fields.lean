import Courier.Fields
import Courier.Proofs.Text
import Mathlib.Data.List.TakeWhile

/-!
# Names in a header list

Which names a header list holds after each of its changes. A lookup compares in lower case, and a
name is in lower case, so that a name answers to its own text.
-/

namespace Courier

namespace FieldName

theorem lower_text (n : FieldName) : n.text.lower = n.text := by
  apply Text.lower_eq_self
  intro c hc
  have h := n.isName
  simp only [isFieldName, Bool.and_eq_true, List.all_eq_true, beq_iff_eq] at h
  exact (h.2 c hc).2

theorem answers_iff {n : FieldName} {query : Text} :
    n.answers query = true ↔ n.text = query.lower := by
  simp [answers]

theorem text_inj {m n : FieldName} : m.text = n.text ↔ m = n := by
  constructor
  · intro h
    cases m
    cases n
    cases h
    rfl
  · exact congrArg text

theorem answers_text_iff {m n : FieldName} : m.answers n.text = true ↔ m = n := by
  rw [answers_iff, lower_text, text_inj]

end FieldName

namespace Fields

variable {h : Fields} {name other : Text}

theorem contains_iff : h.contains name = true ↔ ∃ f ∈ h.entries, f.name.text = name.lower := by
  simp only [contains, List.any_eq_true, FieldName.answers_iff]

theorem not_contains_erase {n : FieldName} (hn : n.text = name.lower) :
    (h.erase n.text).contains name = false := by
  rw [← Bool.not_eq_true, contains_iff]
  rintro ⟨f, hf, hname⟩
  have hkept := (List.mem_filter.1 hf).2
  have hanswers : f.name.answers n.text = true := by
    rw [FieldName.answers_text_iff, ← FieldName.text_inj, hname, hn]
  simp [hanswers] at hkept

theorem contains_of_contains_erase (hc : (h.erase other).contains name = true) :
    h.contains name = true := by
  rw [contains_iff] at hc ⊢
  obtain ⟨f, hf, hn⟩ := hc
  exact ⟨f, (List.mem_filter.1 hf).1, hn⟩

theorem contains_of_contains_replaceAll {n : FieldName} {values : List FieldValue}
    (hn : n.text ≠ name.lower) (hc : (h.replaceAll n values).contains name = true) :
    h.contains name = true := by
  rw [contains_iff] at hc ⊢
  obtain ⟨f, hf, hname⟩ := hc
  simp only [replaceAll, List.mem_append, List.mem_map] at hf
  rcases hf with (hf | ⟨v, -, rfl⟩) | hf
  · exact ⟨f, (List.takeWhile_sublist _).subset hf, hname⟩
  · exact absurd hname hn
  · exact ⟨f, (List.dropWhile_sublist _).subset (List.mem_filter.1 hf).1, hname⟩

/-! ## Values -/

/-- Dropping one name leaves the values of the others. -/
theorem getAll_erase (hn : other.lower ≠ name.lower) :
    (h.erase other).getAll name = h.getAll name := by
  unfold getAll erase
  rw [List.filter_filter]
  refine congrArg _ (List.filter_congr fun f _ => ?_)
  by_cases hname : f.name.answers name = true
  · have hother : f.name.answers other = false := by
      rw [← Bool.not_eq_true, FieldName.answers_iff, FieldName.answers_iff.1 hname]
      exact hn.symm
    simp [hname, hother]
  · simp [hname]

section ReplaceAll

variable {n : FieldName} {values : List FieldValue}

/-- Putting values in the place of a name lets the entries of the other names be. -/
theorem filter_replaceAll {p : Field → Bool} (hp : ∀ f, f.name = n → p f = false) :
    (h.replaceAll n values).entries.filter p = h.entries.filter p := by
  have hnew : (values.map (Field.mk n)).filter p = [] := by
    rw [List.filter_eq_nil_iff]
    intro f hf
    obtain ⟨v, -, rfl⟩ := List.mem_map.1 hf
    simp [hp]
  have hothers : ∀ list : List Field, (list.filter (·.name != n)).filter p = list.filter p := by
    intro list
    rw [List.filter_filter]
    apply List.filter_congr
    intro f _
    by_cases hf : f.name = n
    · simp [hp f hf]
    · simp [hf]
  unfold replaceAll
  dsimp only
  rw [List.filter_append, List.filter_append, hnew, hothers, List.append_nil, ← List.filter_append,
    List.takeWhile_append_dropWhile]

theorem getAll_replaceAll_of_ne (hn : n.text ≠ name.lower) :
    (h.replaceAll n values).getAll name = h.getAll name := by
  unfold getAll
  rw [filter_replaceAll]
  rintro f rfl
  rw [← Bool.not_eq_true, FieldName.answers_iff]
  exact hn

/-- A name whose values are replaced has the new values alone. -/
theorem getAll_replaceAll (hn : n.text = name.lower) :
    (h.replaceAll n values).getAll name = values := by
  have hanswers : n.answers name = true := FieldName.answers_iff.2 hn
  have hothers : ∀ list : List Field, (∀ f ∈ list, (f.name != n) = true) →
      list.filter (·.name.answers name) = [] := by
    intro list hlist
    rw [List.filter_eq_nil_iff]
    intro f hf hname
    have hne : f.name ≠ n := bne_iff_ne.1 (hlist f hf)
    exact hne (FieldName.text_inj.1 ((FieldName.answers_iff.1 hname).trans hn.symm))
  have hnew : (values.map (Field.mk n)).filter (·.name.answers name) = values.map (Field.mk n) := by
    rw [List.filter_eq_self]
    intro f hf
    obtain ⟨v, -, rfl⟩ := List.mem_map.1 hf
    exact hanswers
  unfold getAll replaceAll
  dsimp only
  rw [List.filter_append, List.filter_append,
    hothers _ fun f hf => List.all_eq_true.1 List.all_takeWhile f hf,
    hothers _ fun f hf => (List.mem_filter.1 hf).2, hnew, List.nil_append, List.append_nil,
    List.map_map]
  exact List.map_id values

/-- A name that is given one value has that value alone. -/
theorem getAll_insert {v : FieldValue} (hn : n.text = name.lower) :
    (h.insert n v).getAll name = [v] :=
  getAll_replaceAll hn

/-! ### Places -/

variable {before after : List Field} {first : Field}

/-- New values stand where the first old entry of their name stood. -/
theorem entries_replaceAll_of_split (hentries : h.entries = before ++ first :: after)
    (hbefore : ∀ f ∈ before, f.name ≠ n) (hfirst : first.name = n) :
    (h.replaceAll n values).entries =
      before ++ values.map (⟨n, ·⟩) ++ after.filter (·.name != n) := by
  have hothers : ∀ f ∈ before, (f.name != n) = true := fun f hf => bne_iff_ne.2 (hbefore f hf)
  unfold replaceAll
  dsimp only
  rw [hentries, List.takeWhile_append_of_pos hothers, List.dropWhile_append_of_pos hothers]
  simp [hfirst]

/-- New values of a name that had none stand at the end. -/
theorem entries_replaceAll_of_absent (habsent : ∀ f ∈ h.entries, f.name ≠ n) :
    (h.replaceAll n values).entries = h.entries ++ values.map (⟨n, ·⟩) := by
  have hothers : ∀ f ∈ h.entries, (f.name != n) = true := fun f hf => bne_iff_ne.2 (habsent f hf)
  unfold replaceAll
  dsimp only
  rw [List.takeWhile_eq_self_iff.2 hothers, List.dropWhile_eq_nil_iff.2 hothers, List.filter_nil,
    List.append_nil]

end ReplaceAll

theorem contains_of_getAll_ne_nil (hne : h.getAll name ≠ []) : h.contains name = true := by
  obtain ⟨v, hv⟩ := List.exists_mem_of_ne_nil _ hne
  obtain ⟨f, hf, -⟩ := List.mem_map.1 hv
  obtain ⟨hmem, hanswers⟩ := List.mem_filter.1 hf
  exact List.any_eq_true.2 ⟨f, hmem, hanswers⟩

end Fields

end Courier
