import Courier.Proofs.Fields.Multimap
import Mathlib.Data.List.Nodup
import Mathlib.Data.List.Perm.Basic

/-!
# Grouping a header list

A header list that was grouped holds the entries it held before, those of a name together and the
names in the order of their first entries. So no lookup tells the two lists apart, and the list
stays as it is just if the entries of each name stood together already.
-/

namespace Courier

/-! ## Groups -/

namespace Fields

variable {h : Fields} {name : Text} {m n : FieldName}

/-- The entries of one name. -/
def group (h : Fields) (n : FieldName) : List Field :=
  (h.getAll n.text).map (⟨n, ·⟩)

/-- The entries of a list, those of a name together. -/
def grouped (h : Fields) : Fields :=
  ⟨h.names.flatMap h.group⟩

theorem name_of_mem_group {f : Field} (hf : f ∈ h.group n) : f.name = n := by
  obtain ⟨v, -, rfl⟩ := List.mem_map.1 hf
  rfl

theorem getAll_append_text (n : FieldName) (v : FieldValue) : (h.append n v).getAll m.text =
    if n = m then h.getAll m.text ++ [v] else h.getAll m.text := by
  simp only [getAll_append, FieldName.answers_text_iff]

theorem group_append_self (v : FieldValue) : (h.append n v).group n = h.group n ++ [⟨n, v⟩] := by
  simp [group, getAll_append_text]

theorem group_append_of_ne (hne : n ≠ m) (v : FieldValue) :
    (h.append n v).group m = h.group m := by
  simp [group, getAll_append_text, hne]

theorem group_eq_nil_iff : h.group n = [] ↔ n ∉ h.names := by
  rw [group, List.map_eq_nil_iff, mem_names_iff, ← not_iff_not, not_not, ← ne_eq,
    ← contains_iff_getAll_ne_nil, contains_iff, FieldName.lower_text, List.mem_map]
  simp only [FieldName.text_inj]

end Fields

namespace GroupedFields

open Fields

theorem groups_append_of_mem {names : List FieldName} {values : FieldName → List FieldValue}
    {n : FieldName} (hn : n ∈ names) (v : FieldValue) :
    (append ⟨names.map fun m => (m, values m)⟩ n v).groups =
      names.map fun m => (m, if n = m then values m ++ [v] else values m) := by
  have hany : (names.map fun m => (m, values m)).any (·.1 == n) = true := by
    simpa using hn
  unfold append
  dsimp only
  rw [if_pos hany, List.map_map]
  apply List.map_congr_left
  intro m _
  by_cases hm : m = n
  · simp [hm]
  · simp [hm, Ne.symm hm]

theorem groups_append_of_not_mem {names : List FieldName} {values : FieldName → List FieldValue}
    {n : FieldName} (hn : n ∉ names) (v : FieldValue) :
    (append ⟨names.map fun m => (m, values m)⟩ n v).groups =
      (names.map fun m => (m, values m)) ++ [(n, [v])] := by
  have hany : ¬ (names.map fun m => (m, values m)).any (·.1 == n) = true := by
    simpa using hn
  unfold append
  dsimp only
  rw [if_neg hany]

/-- A list that was grouped has a group for each name, with all values of the name. -/
theorem groups_ofFields (list : List Field) : (ofFields ⟨list⟩).groups =
    (Fields.mk list).names.map fun n => (n, (Fields.mk list).getAll n.text) := by
  -- From the end: what one more entry does to the groups is said by `append`.
  induction list using List.reverseRecOn with
  | nil => rfl
  | append_singleton list f ih =>
    have hstep : ofFields ⟨list ++ [f]⟩ = (ofFields ⟨list⟩).append f.name f.value := by
      simp [ofFields]
    have hsame : ofFields ⟨list⟩ =
        ⟨(Fields.mk list).names.map fun n => (n, (Fields.mk list).getAll n.text)⟩ := by
      rw [← ih]
    have hvalues : ∀ n : FieldName, (Fields.mk (list ++ [f])).getAll n.text =
        if f.name = n then (Fields.mk list).getAll n.text ++ [f.value]
        else (Fields.mk list).getAll n.text := fun n =>
      getAll_append_text f.name f.value
    rw [hstep, hsame, names_concat]
    simp only [hvalues]
    split
    · next hseen => exact groups_append_of_mem hseen f.value
    · next hnew =>
      have hnone : (Fields.mk list).getAll f.name.text = [] :=
        List.map_eq_nil_iff.1 (group_eq_nil_iff.2 hnew)
      rw [groups_append_of_not_mem hnew, List.map_append]
      congr 1
      · apply List.map_congr_left
        intro n hn
        have hne : f.name ≠ n := by
          rintro rfl
          exact hnew hn
        rw [if_neg hne]
      · simp [hnone]

theorem toFields_ofFields (h : Fields) : (ofFields h).toFields = h.grouped := by
  obtain ⟨list⟩ := h
  rw [toFields, groups_ofFields, grouped, List.flatMap_map]
  rfl

end GroupedFields

namespace Fields

variable {h k : Fields} {name : Text} {n : FieldName}

/-! ## What grouping keeps -/

theorem group_ne_nil (hn : n ∈ h.names) : h.group n ≠ [] :=
  fun hnone => group_eq_nil_iff.1 hnone hn

/-- Lookups see of a name nothing but the entries that answer to it. -/
theorem getAll_of_answers (hn : n.answers name = true) : h.getAll name = h.getAll n.text := by
  have hname : n.text = name.lower := FieldName.answers_iff.1 hn
  unfold getAll
  congr 2
  funext f
  rw [Bool.eq_iff_iff, FieldName.answers_iff, FieldName.answers_iff, FieldName.lower_text, hname]

theorem getAll_eq_nil_of_forall (hname : ∀ n : FieldName, n.answers name = false) :
    h.getAll name = [] := by
  unfold getAll
  rw [List.map_eq_nil_iff, List.filter_eq_nil_iff]
  intro f _
  simp [hname f.name]

theorem filter_group (m : FieldName) : (h.group m).filter (·.name.answers n.text) =
    if m = n then h.group m else [] := by
  by_cases hm : m = n
  · rw [if_pos hm, List.filter_eq_self]
    intro f hf
    rw [name_of_mem_group hf, hm]
    exact FieldName.answers_text_iff.2 rfl
  · rw [if_neg hm, List.filter_eq_nil_iff]
    intro f hf hanswers
    rw [name_of_mem_group hf] at hanswers
    exact hm (FieldName.answers_text_iff.1 hanswers)

/-- Of names that are told apart, one gives its own part and the others nothing. -/
theorem flatMap_ite_eq {names : List FieldName} (hnodup : names.Nodup)
    {entries : FieldName → List Field} :
    names.flatMap (fun m => if m = n then entries m else []) =
      if n ∈ names then entries n else [] := by
  induction names with
  | nil => rfl
  | cons m rest ih =>
    obtain ⟨hm, hrest⟩ := List.nodup_cons.1 hnodup
    rw [List.flatMap_cons, ih hrest]
    by_cases heq : m = n
    · subst heq
      simp [hm]
    · simp [heq, Ne.symm heq]

theorem getAll_grouped_text (n : FieldName) : h.grouped.getAll n.text = h.getAll n.text := by
  have hgroup : h.grouped.entries.filter (·.name.answers n.text) = h.group n := by
    rw [grouped, List.filter_flatMap]
    simp only [filter_group]
    rw [flatMap_ite_eq nodup_names]
    split
    · rfl
    · next hn => exact (group_eq_nil_iff.2 hn).symm
  unfold getAll
  rw [hgroup, group, List.map_map]
  exact List.map_id' _

/-- Grouping keeps the values of each name, in their order. -/
theorem getAll_grouped (name : Text) : h.grouped.getAll name = h.getAll name := by
  by_cases hname : ∃ n : FieldName, n.answers name = true
  · obtain ⟨n, hn⟩ := hname
    rw [getAll_of_answers hn, getAll_of_answers hn, getAll_grouped_text]
  · have hnone : ∀ n : FieldName, n.answers name = false := by
      intro n
      rw [← Bool.not_eq_true]
      exact fun hn => hname ⟨n, hn⟩
    rw [getAll_eq_nil_of_forall hnone, getAll_eq_nil_of_forall hnone]

/-- Entries of a name that was not there before add that name to the names. -/
theorem names_append_map {list : List Field} (hn : n ∉ (mk list).names) {values : List FieldValue}
    (hvalues : values ≠ []) :
    (mk (list ++ values.map (⟨n, ·⟩))).names = (mk list).names ++ [n] := by
  induction values using List.reverseRecOn with
  | nil => exact absurd rfl hvalues
  | append_singleton values v ih =>
    rw [List.map_append, ← List.append_assoc, List.map_singleton, names_concat]
    by_cases hfirst : values = []
    · subst hfirst
      simp [hn]
    · rw [ih hfirst, if_pos (List.mem_append_right _ (List.mem_singleton_self n))]

theorem names_flatMap_group {names : List FieldName} (hnodup : names.Nodup)
    (hnames : ∀ n ∈ names, n ∈ h.names) : (mk (names.flatMap h.group)).names = names := by
  induction names using List.reverseRecOn with
  | nil => rfl
  | append_singleton names n ih =>
    obtain ⟨hrest, -, hapart⟩ := List.nodup_append.1 hnodup
    have hih : (mk (names.flatMap h.group)).names = names :=
      ih hrest fun m hm => hnames m (List.mem_append_left _ hm)
    have hn : n ∉ (mk (names.flatMap h.group)).names := by
      rw [hih]
      exact fun hmem => hapart n hmem n (List.mem_singleton_self n) rfl
    have hvalues : h.getAll n.text ≠ [] := by
      intro hnone
      apply group_ne_nil (hnames n (List.mem_append_right _ (List.mem_singleton_self n)))
      rw [group, hnone]
      rfl
    rw [List.flatMap_append, List.flatMap_singleton, group, names_append_map hn hvalues, hih]

/-- Grouping keeps the names and their order. -/
theorem names_grouped (h : Fields) : h.grouped.names = h.names :=
  names_flatMap_group nodup_names fun _ hn => hn

theorem count_entries (f : Field) :
    h.entries.count f = (h.getAll f.name.text).count f.value := by
  rw [getAll, List.count, List.count, List.countP_map, List.countP_filter]
  apply List.countP_congr
  intro g _
  obtain ⟨m, v⟩ := g
  obtain ⟨n, w⟩ := f
  simp [FieldName.answers_text_iff, and_comm]

/-- Lists whose names have the same values hold the same entries. -/
theorem perm_of_getAll_eq (hsame : ∀ n : FieldName, h.getAll n.text = k.getAll n.text) :
    h.entries.Perm k.entries := by
  rw [List.perm_iff_count]
  intro f
  rw [count_entries, count_entries, hsame]

theorem perm_grouped (h : Fields) : h.grouped.entries.Perm h.entries :=
  perm_of_getAll_eq getAll_grouped_text

theorem size_grouped (h : Fields) : h.grouped.size = h.size :=
  (perm_grouped h).length_eq

theorem grouped_grouped (h : Fields) : h.grouped.grouped = h.grouped := by
  have hgroup : h.grouped.group = h.group := by
    funext n
    rw [group, group, getAll_grouped_text]
  conv_lhs => rw [grouped, names_grouped, hgroup]
  rfl

/-! ## Lists that stay as they are -/

/-- The entries of each name stand next to each other. -/
def Contiguous (h : Fields) : Prop :=
  ∀ before between after f g, h.entries = before ++ f :: (between ++ g :: after) →
    f.name = g.name → ∀ k ∈ between, k.name = f.name

theorem Contiguous.of_concat {list : List Field} {f : Field}
    (hc : Contiguous ⟨list ++ [f]⟩) : Contiguous ⟨list⟩ := by
  intro before between after a b hlist
  apply hc before between (after ++ [f])
  change list ++ [f] = _
  rw [show list = _ from hlist]
  simp

/-- Names that are there and have one place are one name. -/
theorem eq_of_place_eq {m : FieldName} (hm : m ∈ h.names) (hn : n ∈ h.names)
    (heq : h.place m = h.place n) : m = n := by
  have hplaces : (h.names.map h.place).Nodup :=
    List.pairwise_map.2 (pairwise_names.imp Nat.ne_of_lt)
  exact List.inj_on_of_nodup_map hplaces hm hn heq

theorem pairwise_grouped (h : Fields) :
    h.grouped.entries.Pairwise fun f g => h.place f.name ≤ h.place g.name := by
  rw [grouped, List.pairwise_flatMap]
  constructor
  · intro n _
    apply List.pairwise_of_forall_mem_list
    intro f hf g hg
    rw [name_of_mem_group hf, name_of_mem_group hg]
  · apply pairwise_names.imp
    intro m n hlt f hf g hg
    rw [name_of_mem_group hf, name_of_mem_group hg]
    exact Nat.le_of_lt hlt

theorem contiguous_grouped (h : Fields) : h.grouped.Contiguous := by
  intro before between after f g hentries hname k hk
  have hmem : ∀ e ∈ h.grouped.entries, e.name ∈ h.names := by
    intro e he
    rw [← names_grouped h]
    exact mem_names_iff.2 (List.mem_map_of_mem he)
  have hf : f ∈ h.grouped.entries := by
    rw [hentries]
    simp
  have hkmem : k ∈ h.grouped.entries := by
    rw [hentries]
    simp [hk]
  have hsorted := pairwise_grouped h
  rw [hentries, List.pairwise_append] at hsorted
  obtain ⟨hfirst, hrest⟩ := List.pairwise_cons.1 hsorted.2.1
  have hle : h.place f.name ≤ h.place k.name := hfirst k (List.mem_append_left _ hk)
  have hge : h.place k.name ≤ h.place g.name :=
    (List.pairwise_append.1 hrest).2.2 k hk g List.mem_cons_self
  rw [← hname] at hge
  exact eq_of_place_eq (hmem k hkmem) (hmem f hf) (Nat.le_antisymm hge hle)

/-- In a list whose names stand together, only the last name can come again. -/
theorem names_eq_concat_of_contiguous {list : List Field} {f : Field}
    (hsame : (mk list).grouped = ⟨list⟩) (hc : Contiguous ⟨list ++ [f]⟩)
    (hseen : f.name ∈ (mk list).names) : ∃ front, (mk list).names = front ++ [f.name] := by
  obtain ⟨front, back, hnames⟩ := List.append_of_mem hseen
  refine ⟨front, ?_⟩
  obtain ⟨e, rest, hgroup⟩ := List.exists_cons_of_ne_nil (group_ne_nil hseen)
  have he : e.name = f.name := name_of_mem_group (hgroup ▸ List.mem_cons_self)
  have hlist : list = front.flatMap (mk list).group ++
      e :: (rest ++ back.flatMap (mk list).group) := by
    have hentries : (mk list).names.flatMap (mk list).group = list := congrArg entries hsame
    rw [hnames, List.flatMap_append, List.flatMap_cons, hgroup] at hentries
    exact hentries.symm
  have hback : back = [] := by
    by_contra hne
    obtain ⟨n, hn⟩ := List.exists_mem_of_ne_nil back hne
    have hthere : n ∈ (mk list).names := by
      rw [hnames]
      simp [hn]
    obtain ⟨g, hg⟩ := List.exists_mem_of_ne_nil _ (group_ne_nil hthere)
    -- An entry between the two of the name would have to bear the name too.
    have hname : g.name = e.name := by
      refine hc (front.flatMap (mk list).group) (rest ++ back.flatMap (mk list).group) [] e f ?_ he
        g (List.mem_append_right _ (List.mem_flatMap.2 ⟨n, hn, hg⟩))
      change list ++ [f] = _
      conv_lhs => rw [hlist]
      simp
    have hnodup := nodup_names (h := mk list)
    rw [hnames, List.nodup_append] at hnodup
    refine (List.nodup_cons.1 hnodup.2.1).1 ?_
    rw [← he, ← hname, name_of_mem_group hg]
    exact hn
  rw [hnames, hback]

theorem grouped_eq_of_contiguous (hc : h.Contiguous) : h.grouped = h := by
  obtain ⟨list⟩ := h
  -- From the end: the last entry is the first of its name, or stands behind others of its name.
  induction list using List.reverseRecOn with
  | nil => rfl
  | append_singleton list f ih =>
    have hsame : (mk list).grouped = ⟨list⟩ := ih hc.of_concat
    have hentries : (mk list).names.flatMap (mk list).group = list := congrArg entries hsame
    have hself : (mk (list ++ [f])).group f.name = (mk list).group f.name ++ [f] :=
      group_append_self f.value
    have hother : ∀ names : List FieldName, f.name ∉ names →
        names.flatMap (mk (list ++ [f])).group = names.flatMap (mk list).group := by
      intro names hnames
      apply List.flatMap_congr
      intro n hn
      have hne : f.name ≠ n := by
        rintro rfl
        exact hnames hn
      exact group_append_of_ne hne f.value
    apply Fields.ext
    change (mk (list ++ [f])).names.flatMap (mk (list ++ [f])).group = list ++ [f]
    rw [names_concat]
    split
    · next hseen =>
      obtain ⟨front, hnames⟩ := names_eq_concat_of_contiguous hsame hc hseen
      have hnodup := nodup_names (h := mk list)
      rw [hnames, List.nodup_append] at hnodup
      have hfront : f.name ∉ front := fun hmem =>
        hnodup.2.2 f.name hmem f.name (List.mem_singleton_self _) rfl
      rw [hnames, List.flatMap_append, List.flatMap_singleton] at hentries
      rw [hnames, List.flatMap_append, List.flatMap_singleton, hself, hother front hfront,
        ← List.append_assoc, hentries]
    · next hnew =>
      rw [List.flatMap_append, List.flatMap_singleton, hself, hother _ hnew, hentries,
        group_eq_nil_iff.2 hnew, List.nil_append]

/-- Grouping leaves just those lists as they are whose names stand together. -/
theorem grouped_eq_iff : h.grouped = h ↔ h.Contiguous := by
  constructor
  · intro hsame
    rw [← hsame]
    exact contiguous_grouped h
  · exact grouped_eq_of_contiguous

/-! ## Grouping as there is room for it -/

open GroupedFields (Room maxRoom)

variable {room : Room}

theorem regrouped?_of_takes (htakes : room.takes (h.entries.map (·.name)) = true) :
    h.regrouped? room = some h.grouped := by
  rw [regrouped?, GroupedFields.ofFields?, if_pos htakes, Option.map_some,
    GroupedFields.toFields_ofFields]

/-- Whatever the table is like, it does not hold more entries than there is room for in any. -/
theorem regrouped?_of_lt (hmany : maxRoom < h.size) : h.regrouped? room = none := by
  have hnone : ¬ room.takes (h.entries.map (·.name)) = true := by
    intro htakes
    have hle := room.le_maxRoom _ htakes
    rw [List.length_map] at hle
    exact absurd hle (Nat.not_le_of_lt hmany)
  rw [regrouped?, GroupedFields.ofFields?, if_neg hnone]
  rfl

/-- **Grouping and listing again.** A list whose entries find room comes back with each name's
entries in one place, the names in their order. It has the same names, the same values of each name
and as many entries. It is the list it was just if the entries of each name stood together, and in
any table that takes it, it does not change a second time. -/
theorem regrouped?_spec (htakes : room.takes (h.entries.map (·.name)) = true) :
    ∃ k, h.regrouped? room = some k ∧
      k.entries = h.names.flatMap (fun n => (h.getAll n.text).map (⟨n, ·⟩)) ∧
      k.names = h.names ∧ (∀ name, k.getAll name = h.getAll name) ∧ k.size = h.size ∧
      (k = h ↔ h.Contiguous) ∧
      ∀ second : Room, second.takes (k.entries.map (·.name)) = true →
        k.regrouped? second = some k := by
  refine ⟨h.grouped, regrouped?_of_takes htakes, rfl, names_grouped h, getAll_grouped,
    size_grouped h, grouped_eq_iff, fun second hsecond => ?_⟩
  rw [regrouped?_of_takes hsecond, grouped_grouped]

/-- Two values of a name around one of another. -/
def interleaved : Fields :=
  ⟨[⟨.accept, { octets := [52] }⟩, ⟨.host, { octets := [53] }⟩, ⟨.accept, { octets := [54] }⟩]⟩

theorem regrouped?_spec_interleaved : interleaved.regrouped? .widest =
      some ⟨[⟨.accept, { octets := [52] }⟩, ⟨.accept, { octets := [54] }⟩,
        ⟨.host, { octets := [53] }⟩]⟩ ∧
    ¬ interleaved.Contiguous ∧
    (interleaved.regrouped? .widest).bind (·.regrouped? .widest) =
      interleaved.regrouped? .widest := by
  obtain ⟨k, hk, hentries, -, -, -, hiff, hsecond⟩ :=
    regrouped?_spec (h := interleaved) (by decide : Room.widest.takes _ = true)
  have heq : k = ⟨[⟨.accept, { octets := [52] }⟩, ⟨.accept, { octets := [54] }⟩,
      ⟨.host, { octets := [53] }⟩]⟩ := Fields.ext hentries
  refine ⟨heq ▸ hk, fun hc => ?_, ?_⟩
  · have hsame := hiff.2 hc
    rw [heq] at hsame
    exact absurd hsame (by decide)
  · rw [hk]
    exact hsecond .widest (by rw [heq]; decide)

/-- One entry more than there is room for. -/
def crowded : Fields :=
  ⟨List.replicate 24577 ⟨{ text := "a".toList }, { octets := Octets.ofString "" }⟩⟩

theorem not_regrouped?_crowded : ¬ ∃ room k, crowded.regrouped? room = some k ∧
    k.names = crowded.names ∧ (∀ name, k.getAll name = crowded.getAll name) ∧
    k.size = crowded.size := by
  have hmany : maxRoom < crowded.size := by
    rw [size, crowded, List.length_replicate]
    exact Nat.lt_succ_self _
  rintro ⟨room, k, hk, -⟩
  rw [regrouped?_of_lt hmany] at hk
  cases hk

end Fields
end Courier
