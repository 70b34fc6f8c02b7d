import Courier.Proofs.Fields.Replay

/-!
# What an inspection shows of a header list

The veil of a header list has nothing of the values that are flagged sensitive but the flag. An
inspection shows as much of a list as of its veil. No change of a list looks at its values, so that
a veil may be put on before a change or after it.
-/

namespace Courier

/-! ## Values -/

namespace FieldValue

/-- What is left of every sensitive value. -/
def veiled : FieldValue :=
  { octets := [], sensitive := true }

/-- A value without its octets, if it is sensitive. -/
def veil (v : FieldValue) : FieldValue :=
  if v.sensitive then veiled else v

variable {v : FieldValue}

theorem veil_of_plain (h : v.sensitive = false) : v.veil = v := by
  simp [veil, h]

@[simp] theorem veil_veil (v : FieldValue) : v.veil.veil = v.veil := by
  cases hv : v.sensitive with
  | false => rw [veil_of_plain hv, veil_of_plain hv]
  | true =>
    have hveil : v.veil = veiled := if_pos hv
    rw [hveil]
    rfl

theorem veil_of_ofOctets? {o : Octets} (h : ofOctets? o = some v) : v.veil = v := by
  apply veil_of_plain
  unfold ofOctets? at h
  split at h
  · cases h
    rfl
  · cases h

@[simp] theorem inspect_veil (v : FieldValue) : inspect v.veil = inspect v := by
  cases hv : v.sensitive with
  | false => rw [veil_of_plain hv]
  | true => simp [veil, veiled, hv, inspect]

end FieldValue

/-- A header without the octets of a sensitive value. -/
def Field.veil (f : Field) : Field :=
  { f with value := f.value.veil }

@[simp] theorem Field.name_veil (f : Field) : f.veil.name = f.name := rfl

/-! ## Header lists -/

namespace Fields

/-- A header list without the octets of sensitive values. -/
def veil (h : Fields) : Fields :=
  ⟨h.entries.map Field.veil⟩

variable {h k : Fields} {n : FieldName} {v : FieldValue}

@[simp] theorem veil_veil (h : Fields) : h.veil.veil = h.veil := by
  simp [veil, Field.veil, Function.comp_def]

theorem filter_veil (list : List Field) (p : FieldName → Bool) :
    (list.map Field.veil).filter (fun f => p f.name) =
      (list.filter fun f => p f.name).map Field.veil := by
  rw [List.filter_map]
  rfl

@[simp] theorem getAll_veil (h : Fields) (name : Text) :
    h.veil.getAll name = (h.getAll name).map FieldValue.veil := by
  unfold getAll veil
  rw [filter_veil h.entries (·.answers name), List.map_map, List.map_map]
  rfl

@[simp] theorem contains_veil (h : Fields) (name : Text) :
    h.veil.contains name = h.contains name := by
  simp [contains, veil, Function.comp_def]

@[simp] theorem names_veil (h : Fields) : h.veil.names = h.names := by
  unfold names veil
  rw [List.foldl_map]
  rfl

theorem veil_replaceAll (values : List FieldValue) :
    (h.replaceAll n values).veil = h.veil.replaceAll n (values.map FieldValue.veil) := by
  simp only [replaceAll, veil, List.map_append, List.map_map, List.takeWhile_map,
    List.dropWhile_map, List.filter_map]
  rfl

theorem veil_insert : (h.insert n v).veil = h.veil.insert n v.veil :=
  veil_replaceAll [v]

theorem veil_erase (name : Text) : (h.erase name).veil = h.veil.erase name := by
  unfold erase veil
  rw [filter_veil h.entries fun n => !n.answers name]

theorem veil_insertAll (list : List Field) :
    (h.insertAll list).veil = h.veil.insertAll (list.map Field.veil) := by
  induction list generalizing h with
  | nil => rfl
  | cons f rest ih =>
    rw [insertAll_cons, ih, veil_insert, List.map_cons, insertAll_cons]
    rfl

theorem veil_replay : (h.replay k).veil = h.veil.replay k.veil := by
  unfold replay
  rw [names_veil]
  generalize h.names = names
  induction names generalizing k with
  | nil => rfl
  | cons n rest ih =>
    rw [List.foldl_cons, List.foldl_cons, ih, veil_replaceAll, getAll_veil]

/-- An inspection shows as much of a header list as of its veil. -/
@[simp] theorem inspect_veil (h : Fields) : inspect h.veil = inspect h := by
  have hfield : ∀ f : Field, inspect f.veil = inspect f := by
    intro f
    change Inspect.tuple "" [inspect f.name, inspect f.value.veil] = _
    rw [FieldValue.inspect_veil]
    rfl
  change "[" ++ Inspect.commas ((h.entries.map Field.veil).map inspect) ++ "]" =
    "[" ++ Inspect.commas (h.entries.map inspect) ++ "]"
  rw [List.map_map]
  congr 3
  apply List.map_congr_left
  intro f _
  exact hfield f

end Fields

end Courier
