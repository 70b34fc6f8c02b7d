import Courier.Proofs.Fields.Multimap
import Courier.Request

/-!
# Changes with several header values

A change that takes several values of a name is made as a whole or not at all. Whether it is made
depends on what is given alone: the name has to be a token, and each value free of controls. What is
reported otherwise is the name if it is bad, and else the first bad value.
-/

namespace Courier

variable {name : Octets} {values : List RawValue}

/-! ## Names and values that can be used -/

/-- The octets of a name: a token of at most 65535 octets, in any case. -/
def Octets.IsName (o : Octets) : Prop :=
  o ≠ [] ∧ o.length ≤ 65535 ∧ ∀ b ∈ o, isTokenChar (Char.ofNat b.toNat) = true

instance {o : Octets} : Decidable o.IsName :=
  inferInstanceAs (Decidable (o ≠ [] ∧ o.length ≤ 65535 ∧ _))

namespace FieldName

/-- A character of one octet is a small character of tokens once it is made small, if it was one
before. -/
theorem isTokenChar_toLower : ∀ n < 256, (isTokenChar (Char.ofNat n).toLower &&
    (Char.ofNat n).toLower.toLower == (Char.ofNat n).toLower) = isTokenChar (Char.ofNat n) := by
  decide +kernel

theorem isFieldName_lower_iff {o : Octets} : isFieldName o.toLatinText.lower = true ↔ o.IsName := by
  have hchars : ∀ b : UInt8, (isTokenChar (Char.ofNat b.toNat).toLower &&
      (Char.ofNat b.toNat).toLower.toLower == (Char.ofNat b.toNat).toLower) =
        isTokenChar (Char.ofNat b.toNat) :=
    fun b => isTokenChar_toLower b.toNat b.toNat_lt
  have hall : o.toLatinText.lower.all (fun c => isTokenChar c && c.toLower == c) =
      o.all fun b => isTokenChar (Char.ofNat b.toNat) := by
    rw [Text.lower, Octets.toLatinText, List.map_map, List.all_map]
    congr 1
    funext b
    exact hchars b
  have hempty : o.toLatinText.lower.isEmpty = o.isEmpty := by
    cases o <;> rfl
  have hlength : o.toLatinText.lower.length = o.length := by
    simp [Text.lower, Octets.toLatinText]
  rw [isFieldName, hall, hempty, hlength, Octets.IsName]
  simp [and_assoc]

/-- A name is read if its octets can be used, and is then the name in lower case. -/
theorem read_of_isName (hname : name.IsName) :
    ∃ n, FieldName.read name = .ok n ∧ n.text = name.toLatinText.lower := by
  refine ⟨⟨name.toLatinText.lower, isFieldName_lower_iff.2 hname⟩, ?_, rfl⟩
  rw [FieldName.read, ofOctets?, ofText?, dif_pos (isFieldName_lower_iff.2 hname)]

theorem read_of_not_isName (hname : ¬ name.IsName) :
    FieldName.read name = .error (.ofCause .builder .fieldName) := by
  rw [FieldName.read, ofOctets?, ofText?, dif_neg (mt isFieldName_lower_iff.1 hname)]

end FieldName

namespace RawValue

/-- A value that can be used: no octet is a control other than the tab. -/
def IsAcceptable : RawValue → Prop
  | octets o => ∀ b ∈ o, isFieldOctet b = true
  | number _ | checked _ => True

/-- The header value that a caller means. -/
def Means : RawValue → FieldValue → Prop
  | octets o, v => v.octets = o ∧ v.sensitive = false
  | number i, v => v = .ofInt i
  | checked w, v => v = w

variable {raw : RawValue}

theorem read_of_isAcceptable (h : raw.IsAcceptable) : ∃ v, raw.read = .ok v ∧ raw.Means v := by
  cases raw with
  | octets o =>
    have hvalue : o.all isFieldOctet = true := List.all_eq_true.2 h
    refine ⟨{ octets := o, isValue := hvalue }, ?_, rfl, rfl⟩
    simp only [read, FieldValue.ofOctets?, dif_pos hvalue]
  | number i => exact ⟨_, rfl, rfl⟩
  | checked v => exact ⟨_, rfl, rfl⟩

theorem read_of_not_isAcceptable (h : ¬ raw.IsAcceptable) :
    raw.read = .error (.ofCause .builder .fieldValue) := by
  cases raw with
  | octets o =>
    have hvalue : ¬ o.all isFieldOctet = true := fun hall => h (List.all_eq_true.1 hall)
    simp only [read, FieldValue.ofOctets?, dif_neg hvalue]
  | number i => exact absurd trivial h
  | checked v => exact absurd trivial h

/-- Values that can all be used are all read. -/
theorem mapM_read_of_forall (h : ∀ v ∈ values, v.IsAcceptable) :
    ∃ new, values.mapM RawValue.read = .ok new ∧ List.Forall₂ Means values new := by
  induction values with
  | nil => exact ⟨[], rfl, .nil⟩
  | cons raw rest ih =>
    obtain ⟨v, hv, hmeans⟩ := read_of_isAcceptable (h raw List.mem_cons_self)
    obtain ⟨new, hnew, hrest⟩ := ih fun w hw => h w (List.mem_cons_of_mem raw hw)
    refine ⟨v :: new, ?_, .cons hmeans hrest⟩
    rw [List.mapM_cons, hv, hnew]
    rfl

/-- Values are read up to the first one that cannot be used. -/
theorem mapM_read_append_cons {before after : List RawValue} {bad : RawValue} {f : Failure}
    (hbefore : ∀ v ∈ before, v.IsAcceptable) (hbad : bad.read = .error f) :
    (before ++ bad :: after).mapM RawValue.read = .error f := by
  induction before with
  | nil =>
    rw [List.nil_append, List.mapM_cons, hbad]
    rfl
  | cons raw rest ih =>
    obtain ⟨v, hv, -⟩ := read_of_isAcceptable (hbefore raw List.mem_cons_self)
    rw [List.cons_append, List.mapM_cons, hv,
      show (rest ++ bad :: after).mapM RawValue.read = .error f from
        ih fun w hw => hbefore w (List.mem_cons_of_mem raw hw)]
    rfl

open Classical in
/-- Among values that cannot all be used there is a first one that cannot. -/
theorem exists_first_not_isAcceptable (h : ¬ ∀ v ∈ values, v.IsAcceptable) :
    ∃ before bad after, values = before ++ bad :: after ∧ (∀ v ∈ before, v.IsAcceptable) ∧
      ¬ bad.IsAcceptable := by
  induction values with
  | nil => exact absurd (List.forall_mem_nil _) h
  | cons raw rest ih =>
    by_cases hraw : raw.IsAcceptable
    · have hrest : ¬ ∀ v ∈ rest, v.IsAcceptable := fun hall =>
        h (List.forall_mem_cons.2 ⟨hraw, hall⟩)
      obtain ⟨before, bad, after, rfl, hbefore, hbad⟩ := ih hrest
      exact ⟨raw :: before, bad, after, rfl, List.forall_mem_cons.2 ⟨hraw, hbefore⟩, hbad⟩
    · exact ⟨[], raw, rest, rfl, List.forall_mem_nil _, hraw⟩

end RawValue

/-! ## Values added at the end -/

namespace Fields

variable {h : Fields} {n : FieldName} {asked : Text} {new : List FieldValue}

theorem entries_appendAll : (h.appendAll n new).entries = h.entries ++ new.map (⟨n, ·⟩) := by
  induction new generalizing h with
  | nil => exact (List.append_nil _).symm
  | cons v rest ih =>
    change ((h.append n v).appendAll n rest).entries = _
    rw [ih, append, List.append_assoc]
    rfl

theorem getAll_appendAll (hn : n.text = asked.lower) :
    (h.appendAll n new).getAll asked = h.getAll asked ++ new := by
  have hanswers : n.answers asked = true := FieldName.answers_iff.2 hn
  have hnew : (new.map (Field.mk n)).filter (·.name.answers asked) = new.map (Field.mk n) := by
    rw [List.filter_eq_self]
    intro f hf
    obtain ⟨v, -, rfl⟩ := List.mem_map.1 hf
    exact hanswers
  unfold getAll
  rw [entries_appendAll, List.filter_append, hnew, List.map_append, List.map_map]
  congr 1
  exact List.map_id new

theorem filter_appendAll {p : Field → Bool} (hp : ∀ f, f.name = n → p f = false) :
    (h.appendAll n new).entries.filter p = h.entries.filter p := by
  have hnew : (new.map (Field.mk n)).filter p = [] := by
    rw [List.filter_eq_nil_iff]
    intro f hf
    obtain ⟨v, -, rfl⟩ := List.mem_map.1 hf
    simp [hp]
  rw [entries_appendAll, List.filter_append, hnew, List.append_nil]

end Fields

/-! ## Changes -/

/-- A change that takes several values of a name: it adds them to those the name has, or puts them
in their place. -/
inductive ValuesChange
  | add
  | set

namespace ValuesChange

variable {c : ValuesChange} {d d' : Descriptor} {f : Failure}

/-- The change of a descriptor. -/
def onDescriptor : ValuesChange → Descriptor → Octets → List RawValue → Except Failure Descriptor
  | add, d, name, values => d.addHeaderValues name values
  | set, d, name, values => d.setHeaderValues name values

/-- The change of a request. -/
def onRequest (c : ValuesChange) (q : Request) (name : Octets) (values : List RawValue) :
    Except Failure Request :=
  q.mapDescriptor (c.onDescriptor · name values)

/-- The change of a header list. -/
def onFields : ValuesChange → Fields → FieldName → List FieldValue → Fields
  | add, h, n, new => h.appendAll n new
  | set, h, n, new => h.replaceAll n new

/-- The values that a name has afterwards. -/
def left : ValuesChange → List FieldValue → List FieldValue → List FieldValue
  | add, old, new => old ++ new
  | set, _, new => new

/-- A descriptor has changed in the values of one name and in nothing else. -/
structure Changed (c : ValuesChange) (name : Octets) (values : List RawValue)
    (d d' : Descriptor) : Prop where
  version : d'.version = d.version
  method : d'.method = d.method
  uri : d'.uri = d.uri
  left : ∃ new, List.Forall₂ RawValue.Means values new ∧
    d'.fields.getAll name.toLatinText = c.left (d.fields.getAll name.toLatinText) new
  gone : c = .set → values = [] → d'.fields.contains name.toLatinText = false
  others : d'.fields.entries.filter (!·.name.answers name.toLatinText) =
    d.fields.entries.filter (!·.name.answers name.toLatinText)

/-- Why a change is refused: for its name, or for the first of its values that cannot be used. -/
inductive Refused (name : Octets) (values : List RawValue) : Failure → Prop
  | name (hname : ¬ name.IsName) : Refused name values (.ofCause .builder .fieldName)
  | value {before after : List RawValue} {bad : RawValue} (hname : name.IsName)
    (hvalues : values = before ++ bad :: after) (hbefore : ∀ v ∈ before, v.IsAcceptable)
    (hbad : ¬ bad.IsAcceptable) : Refused name values (.ofCause .builder .fieldValue)

/-- A change that is made just if the name and all values can be used, and else is refused. -/
structure AllOrNothing {α : Type} (name : Octets) (values : List RawValue)
    (result : Except Failure α) (changed : α → Prop) : Prop where
  succeeds : (∃ a, result = .ok a) ↔ name.IsName ∧ ∀ v ∈ values, v.IsAcceptable
  done : ∀ a, result = .ok a → changed a
  refused : ∀ f, result = .error f → Refused name values f

/-- A change checks the name, then the values in their order, and only then the header list. -/
theorem onDescriptor_eq (c : ValuesChange) (d : Descriptor) :
    c.onDescriptor d name values = (do
      let n ← FieldName.read name
      let new ← values.mapM RawValue.read
      return d.withFields (c.onFields · n new)) := by
  cases c <;> rfl

theorem onRequest_eq (c : ValuesChange) (q : Request) : c.onRequest q name values =
    (c.onDescriptor q.descriptor name values).map fun d' => { q with descriptor := d' } := by
  unfold onRequest Request.mapDescriptor
  dsimp only
  cases c.onDescriptor q.descriptor name values <;> rfl

theorem changed_withFields {n : FieldName} (hn : n.text = name.toLatinText.lower)
    {new : List FieldValue} (hnew : List.Forall₂ RawValue.Means values new) :
    c.Changed name values d (d.withFields (c.onFields · n new)) := by
  have hothers : ∀ f : Field, f.name = n → (!f.name.answers name.toLatinText) = false := by
    rintro f rfl
    rw [FieldName.answers_iff.2 hn]
    rfl
  refine ⟨rfl, rfl, rfl, ⟨new, hnew, ?_⟩, ?_, ?_⟩
  · cases c with
    | add => exact Fields.getAll_appendAll hn
    | set => exact Fields.getAll_replaceAll hn
  · rintro rfl rfl
    cases hnew
    have hnone : (d.fields.replaceAll n []).getAll name.toLatinText = [] :=
      Fields.getAll_replaceAll hn
    rw [← Bool.not_eq_true, Fields.contains_iff_getAll_ne_nil, not_not]
    exact hnone
  · cases c with
    | add => exact Fields.filter_appendAll hothers
    | set => exact Fields.filter_replaceAll hothers

namespace AllOrNothing

variable {α β : Type} {changed : α → Prop}

theorem of_ok {a : α} (hname : name.IsName) (hvalues : ∀ v ∈ values, v.IsAcceptable)
    (ha : changed a) : AllOrNothing name values (.ok a) changed where
  succeeds := iff_of_true ⟨a, rfl⟩ ⟨hname, hvalues⟩
  done := by
    rintro _ ⟨⟩
    exact ha
  refused := by
    intro f hf
    cases hf

theorem of_error (hnot : ¬ (name.IsName ∧ ∀ v ∈ values, v.IsAcceptable))
    (hf : Refused name values f) : AllOrNothing name values (.error f) changed where
  succeeds := by
    refine iff_of_false ?_ hnot
    rintro ⟨a, ha⟩
    cases ha
  done := by
    intro a ha
    cases ha
  refused := by
    rintro _ ⟨⟩
    exact hf

/-- What is made of the result of a change is there if the result is. -/
theorem map {result : Except Failure α} {changed' : β → Prop} {g : α → β}
    (h : AllOrNothing name values result changed) (hg : ∀ a, changed a → changed' (g a)) :
    AllOrNothing name values (result.map g) changed' := by
  cases result with
  | ok a =>
    obtain ⟨hname, hvalues⟩ := h.succeeds.1 ⟨a, rfl⟩
    exact of_ok hname hvalues (hg a (h.done a rfl))
  | error f =>
    refine of_error (fun hall => ?_) (h.refused f rfl)
    obtain ⟨a, ha⟩ := h.succeeds.2 hall
    cases ha

end AllOrNothing

theorem allOrNothing_onDescriptor (c : ValuesChange) (d : Descriptor) :
    AllOrNothing name values (c.onDescriptor d name values) (c.Changed name values d) := by
  rw [onDescriptor_eq]
  by_cases hname : name.IsName
  · obtain ⟨n, hn, htext⟩ := FieldName.read_of_isName hname
    rw [hn]
    by_cases hvalues : ∀ v ∈ values, v.IsAcceptable
    · obtain ⟨new, hnew, hmeans⟩ := RawValue.mapM_read_of_forall hvalues
      rw [hnew]
      exact .of_ok hname hvalues (changed_withFields htext hmeans)
    · obtain ⟨before, bad, after, rfl, hbefore, hbad⟩ :=
        RawValue.exists_first_not_isAcceptable hvalues
      rw [RawValue.mapM_read_append_cons hbefore (RawValue.read_of_not_isAcceptable hbad)]
      exact .of_error (fun h => hvalues h.2) (.value hname rfl hbefore hbad)
  · rw [FieldName.read_of_not_isName hname]
    exact .of_error (fun h => hname h.1) (.name hname)

/-- **Changes with several values are made as a whole or not at all.** They succeed just if the name
and each value can be used. Then the name has its old values and the new ones behind them, or the new
ones alone, and is gone if there are none; all other headers, version, method and target are as they
were, and so are content, limit and timeout of a request. Otherwise the failure is that of the name
if it is bad, and else that of the first bad value. -/
theorem allOrNothing (c : ValuesChange) (name : Octets) (values : List RawValue) :
    (∀ d : Descriptor,
      AllOrNothing name values (c.onDescriptor d name values) (c.Changed name values d)) ∧
    (∀ q : Request, AllOrNothing name values (c.onRequest q name values) fun q' =>
      c.Changed name values q.descriptor q'.descriptor ∧ q'.content = q.content ∧
        q'.redirects = q.redirects ∧ q'.readTimeout = q.readTimeout) := by
  refine ⟨fun d => allOrNothing_onDescriptor c d, fun q => ?_⟩
  rw [onRequest_eq]
  apply (allOrNothing_onDescriptor c q.descriptor).map
  intro d' hchanged
  exact ⟨hchanged, rfl, rfl, rfl⟩

/-- A bad value behind a good one. -/
example : (ValuesChange.add.onDescriptor {} (Octets.ofString "X-A")
    [.octets [97], .octets [10]]).toOption = none := by
  decide

end ValuesChange

end Courier
