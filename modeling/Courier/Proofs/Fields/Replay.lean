import Courier.Proofs.Fields
import Mathlib.Data.List.Basic
import Mathlib.Data.List.Induction

/-!
# Setting headers one after the other

Setting a header leaves it in the place it has. A header list that came about by setting headers,
one after the other, has each name once, and setting its entries in another list comes to the same
there as setting those headers: what was set first and then set again leaves only its place.
-/

namespace Courier.Fields

variable {h : Fields} {m n : FieldName} {v w : FieldValue} {f : Field} {list rest : List Field}

/-! ## One header -/

theorem insert_nil : (mk []).insert n v = ⟨[⟨n, v⟩]⟩ := rfl

theorem insert_cons_self (hf : f.name = n) :
    (mk (f :: rest)).insert n v = ⟨⟨n, v⟩ :: rest.filter (·.name != n)⟩ := by
  simp [insert, replaceAll, hf]

theorem entries_insert_cons (hf : f.name ≠ n) :
    ((mk (f :: rest)).insert n v).entries = f :: ((mk rest).insert n v).entries := by
  simp [insert, replaceAll, hf]

theorem insert_cons (hf : f.name ≠ n) :
    (mk (f :: rest)).insert n v = ⟨f :: ((mk rest).insert n v).entries⟩ := by
  rw [← entries_insert_cons hf]

/-- Setting a header again leaves nothing of the value it had. -/
theorem insert_insert : (h.insert n v).insert n w = h.insert n w := by
  obtain ⟨list⟩ := h
  induction list with
  | nil => rw [insert_nil, insert_nil, insert_cons_self rfl, List.filter_nil]
  | cons f rest ih =>
    by_cases hf : f.name = n
    · rw [insert_cons_self hf, insert_cons_self hf, insert_cons_self rfl, List.filter_filter]
      simp
    · rw [insert_cons hf, insert_cons hf, insert_cons hf]
      rw [show mk ((mk rest).insert n v).entries = (mk rest).insert n v from rfl, ih]

/-- Setting a header lets the entries of the other names be. -/
theorem filter_insert (hne : m ≠ n) :
    ((mk list).insert m w).entries.filter (·.name != n) =
      ((mk (list.filter (·.name != n))).insert m w).entries := by
  induction list with
  | nil => simp [insert_nil, hne]
  | cons f rest ih =>
    by_cases hm : f.name = m
    · have hn : f.name ≠ n := by
        rw [hm]
        exact hne
      rw [insert_cons_self hm, List.filter_cons_of_pos (by simpa using hne),
        List.filter_cons_of_pos (by simpa using hn), insert_cons_self hm,
        List.filter_filter, List.filter_filter]
      simp only [Bool.and_comm]
    · rw [entries_insert_cons hm]
      by_cases hn : f.name = n
      · rw [List.filter_cons_of_neg (by simpa using hn),
          List.filter_cons_of_neg (by simpa using hn)]
        exact ih
      · rw [List.filter_cons_of_pos (by simpa using hn),
          List.filter_cons_of_pos (by simpa using hn), entries_insert_cons hm, ih]

/-- A header that is there may be set before another one or after it. If neither were there, the two
orders would leave them in different places. -/
theorem insert_comm (hne : m ≠ n) (hn : n ∈ h.entries.map (·.name)) :
    (h.insert m w).insert n v = (h.insert n v).insert m w := by
  obtain ⟨list⟩ := h
  induction list with
  | nil => cases hn
  | cons f rest ih =>
    by_cases hm : f.name = m
    · have hfn : f.name ≠ n := by
        rw [hm]
        exact hne
      rw [insert_cons_self hm, insert_cons hfn, insert_cons hne, insert_cons_self hm,
        filter_insert (Ne.symm hne)]
    · by_cases hfn : f.name = n
      · rw [insert_cons hm, insert_cons_self hfn, insert_cons_self hfn,
          insert_cons (Ne.symm hne), filter_insert hne]
      · have hrest : n ∈ rest.map (·.name) := by
          rcases List.mem_cons.1 hn with heq | hrest
          · exact absurd heq.symm hfn
          · exact hrest
        have hswap := congrArg entries (ih hrest)
        rw [insert_cons hm, insert_cons hfn, insert_cons hfn, insert_cons hm]
        exact congrArg (fun rest => mk (f :: rest)) hswap

/-! ## Headers one after the other -/

/-- Sets headers one after the other. -/
def insertAll (h : Fields) (list : List Field) : Fields :=
  list.foldl (fun h f => h.insert f.name f.value) h

@[simp] theorem insertAll_nil : h.insertAll [] = h := rfl

@[simp] theorem insertAll_cons :
    h.insertAll (f :: rest) = (h.insert f.name f.value).insertAll rest := rfl

@[simp] theorem insertAll_append :
    h.insertAll (list ++ rest) = (h.insertAll list).insertAll rest :=
  List.foldl_append

/-- The names after a header was set. -/
theorem mem_names_insert_iff :
    m ∈ (h.insert n v).entries.map (·.name) ↔ m = n ∨ m ∈ h.entries.map (·.name) := by
  obtain ⟨list⟩ := h
  induction list with
  | nil => simp [insert_nil]
  | cons f rest ih =>
    by_cases hf : f.name = n
    · rw [insert_cons_self hf, List.map_cons, List.map_cons, List.mem_cons, List.mem_cons, hf]
      by_cases hm : m = n
      · simp [hm]
      · have hkept : m ∈ (rest.filter (·.name != n)).map (·.name) ↔ m ∈ rest.map (·.name) := by
          constructor
          · exact fun hmem => ((List.filter_sublist).map _).subset hmem
          · intro hmem
            obtain ⟨g, hg, rfl⟩ := List.mem_map.1 hmem
            exact List.mem_map_of_mem (List.mem_filter.2 ⟨hg, by simpa using hm⟩)
        simp only [hm, false_or, hkept]
    · rw [entries_insert_cons hf, List.map_cons, List.map_cons, List.mem_cons, List.mem_cons, ih]
      exact or_left_comm

theorem mem_names_insertAll_iff :
    m ∈ (h.insertAll list).entries.map (·.name) ↔
      m ∈ h.entries.map (·.name) ∨ m ∈ list.map (·.name) := by
  induction list generalizing h with
  | nil => simp
  | cons f rest ih =>
    rw [insertAll_cons, ih, mem_names_insert_iff, List.map_cons, List.mem_cons, ← or_assoc]
    exact or_congr_left or_comm

theorem contains_text_iff : h.contains n.text = true ↔ n ∈ h.entries.map (·.name) := by
  rw [contains_iff, FieldName.lower_text, List.mem_map]
  simp only [FieldName.text_inj]

/-- A header that is there may be set before others or after them. -/
theorem insert_insertAll (hrest : n ∉ rest.map (·.name)) (hn : n ∈ h.entries.map (·.name)) :
    (h.insertAll rest).insert n v = (h.insert n v).insertAll rest := by
  induction rest generalizing h with
  | nil => rfl
  | cons g rest ih =>
    rw [List.map_cons, List.mem_cons, not_or] at hrest
    rw [insertAll_cons, insertAll_cons, ih hrest.2 (mem_names_insert_iff.2 (.inr hn)),
      insert_comm (Ne.symm hrest.1) hn]

/-! ## Header lists that have each name once -/

/-- Each name of the list has one entry. -/
def Distinct (h : Fields) : Prop :=
  (h.entries.map (·.name)).Nodup

theorem distinct_empty : Distinct {} :=
  List.nodup_nil

theorem filter_name_eq_self (hn : n ∉ list.map (·.name)) :
    list.filter (·.name != n) = list := by
  rw [List.filter_eq_self]
  intro f hf
  have hne : f.name ≠ n := by
    rintro rfl
    exact hn (List.mem_map_of_mem hf)
  simpa using hne

theorem Distinct.insert (hd : h.Distinct) : (h.insert n v).Distinct := by
  obtain ⟨list⟩ := h
  induction list with
  | nil => simp [Distinct, insert_nil]
  | cons f rest ih =>
    obtain ⟨hf, hrest⟩ := List.nodup_cons.1 hd
    by_cases hfn : f.name = n
    · subst hfn
      rw [insert_cons_self rfl, filter_name_eq_self hf]
      exact hd
    · rw [Distinct, entries_insert_cons hfn]
      refine List.nodup_cons.2 ⟨?_, ih hrest⟩
      intro hmem
      rcases mem_names_insert_iff.1 hmem with heq | hmem
      · exact hfn heq
      · exact hf hmem

theorem Distinct.insertAll (hd : h.Distinct) : (h.insertAll list).Distinct := by
  induction list generalizing h with
  | nil => exact hd
  | cons f rest ih => exact ih hd.insert

theorem foldl_names {seen : List FieldName} (hd : (seen ++ list.map (·.name)).Nodup) :
    list.foldl (fun seen f => if seen.contains f.name then seen else seen ++ [f.name]) seen =
      seen ++ list.map (·.name) := by
  induction list generalizing seen with
  | nil => simp
  | cons f rest ih =>
    rw [List.map_cons] at hd
    have hnew : f.name ∉ seen := by
      intro hseen
      exact (List.nodup_append.1 hd).2.2 _ hseen _ List.mem_cons_self rfl
    have hlater : ((seen ++ [f.name]) ++ rest.map (·.name)).Nodup := by
      rwa [List.append_assoc]
    rw [List.foldl_cons, if_neg (by simpa using hnew), ih hlater, List.append_assoc]
    rfl

theorem Distinct.names_eq (hd : h.Distinct) : h.names = h.entries.map (·.name) :=
  foldl_names hd

theorem Distinct.getAll_eq (hd : h.Distinct) (hf : f ∈ h.entries) :
    h.getAll f.name.text = [f.value] := by
  obtain ⟨list⟩ := h
  have hanswers : ∀ list : List Field, list.filter (·.name.answers f.name.text) =
      list.filter (·.name == f.name) := by
    intro list
    apply List.filter_congr
    intro g _
    rw [Bool.eq_iff_iff, FieldName.answers_text_iff, beq_iff_eq]
  rw [getAll, hanswers]
  induction list with
  | nil => cases hf
  | cons g rest ih =>
    obtain ⟨hg, hrest⟩ := List.nodup_cons.1 hd
    rcases List.mem_cons.1 hf with rfl | hf
    · have hnone : rest.filter (·.name == f.name) = [] := by
        rw [List.filter_eq_nil_iff]
        intro g hmem hname
        exact hg (List.mem_map.2 ⟨g, hmem, beq_iff_eq.1 hname⟩)
      simp [hnone]
    · have hne : g.name ≠ f.name := by
        intro heq
        exact hg (List.mem_map.2 ⟨f, hf, heq.symm⟩)
      rw [List.filter_cons_of_neg (by simpa using hne)]
      exact ih hrest hf

/-! ## Replaying -/

/-- Sets the headers of a list in another one, name by name. -/
def replay (h k : Fields) : Fields :=
  h.names.foldl (fun k n => k.replaceAll n (h.getAll n.text)) k

theorem replay_of_distinct {k : Fields} (hd : h.Distinct) : h.replay k = k.insertAll h.entries := by
  rw [replay, hd.names_eq, List.foldl_map]
  apply List.foldl_ext
  intro k f hf
  rw [hd.getAll_eq hf]
  rfl

/-- Setting a header before its list is replayed is setting it afterwards. -/
theorem insertAll_insert {k : Fields} (hd : h.Distinct) :
    k.insertAll (h.insert n v).entries = (k.insertAll h.entries).insert n v := by
  obtain ⟨list⟩ := h
  induction list generalizing k with
  | nil => rfl
  | cons f rest ih =>
    obtain ⟨hf, hrest⟩ := List.nodup_cons.1 hd
    by_cases hfn : f.name = n
    · -- No later entry has this name, so that setting it last is setting it first again.
      subst hfn
      rw [insert_cons_self rfl, filter_name_eq_self hf]
      dsimp only
      rw [insertAll_cons, insertAll_cons, insert_insertAll hf (mem_names_insert_iff.2 (.inl rfl)),
        insert_insert]
    · rw [entries_insert_cons hfn]
      exact ih hrest

/-- Replaying a list that came about by setting headers is setting those headers. -/
theorem replay_insertAll (list : List Field) (k : Fields) :
    (insertAll {} list).replay k = k.insertAll list := by
  rw [replay_of_distinct distinct_empty.insertAll]
  -- From the end: what the last header does to the list before it is known.
  induction list using List.reverseRecOn with
  | nil => rfl
  | append_singleton list f ih =>
    rw [insertAll_append, insertAll_append, ← ih]
    exact insertAll_insert distinct_empty.insertAll

/-! ## Values -/

/-- Setting a header lets the values of the other names be. -/
theorem getAll_insert_of_ne {name : Text} (hn : n.text ≠ name.lower) :
    (h.insert n v).getAll name = h.getAll name :=
  getAll_replaceAll_of_ne hn

theorem getAll_insertAll_of_ne {name : Text} (hn : ∀ f ∈ list, f.name.text ≠ name.lower) :
    (h.insertAll list).getAll name = h.getAll name := by
  induction list generalizing h with
  | nil => rfl
  | cons f rest ih =>
    rw [insertAll_cons, ih fun g hg => hn g (List.mem_cons_of_mem f hg),
      getAll_insert_of_ne (hn f List.mem_cons_self)]

/-- A name has the value that it was given last. -/
theorem getAll_insertAll_of_last {earlier later : List Field}
    (hlater : ∀ g ∈ later, g.name ≠ f.name) :
    (h.insertAll (earlier ++ f :: later)).getAll f.name.text = [f.value] := by
  rw [insertAll_append, insertAll_cons, getAll_insertAll_of_ne]
  · exact getAll_insert (FieldName.lower_text f.name).symm
  · intro g hg hname
    rw [FieldName.lower_text, FieldName.text_inj] at hname
    exact hlater g hg hname

theorem getAll_foldl_replaceAll {k : Fields} {names : List FieldName} (hn : n ∈ names) :
    (names.foldl (fun k m => k.replaceAll m (h.getAll m.text)) k).getAll n.text =
      h.getAll n.text := by
  -- From the end: either the last name is the one asked for, or it lets that one be.
  induction names using List.reverseRecOn with
  | nil => cases hn
  | append_singleton names m ih =>
    rw [List.foldl_append, List.foldl_cons, List.foldl_nil]
    by_cases hm : m = n
    · subst hm
      exact getAll_replaceAll (FieldName.lower_text m).symm
    · rw [getAll_replaceAll_of_ne]
      · apply ih
        rcases List.mem_append.1 hn with hn | hn
        · exact hn
        · exact absurd (List.mem_singleton.1 hn).symm hm
      · rw [FieldName.lower_text, ne_eq, FieldName.text_inj]
        exact hm

/-- Replaying a list leaves each name of that list with the values that it has there. -/
theorem getAll_replay {k : Fields} (hn : n ∈ h.names) :
    (h.replay k).getAll n.text = h.getAll n.text :=
  getAll_foldl_replaceAll hn

end Courier.Fields
