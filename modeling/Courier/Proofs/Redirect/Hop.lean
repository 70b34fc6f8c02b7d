import Courier.Proofs.Fields.Replay
import Courier.Redirect.Decision

/-!
# What a hop does to a request

A hop drops headers and changes the value of `Host`; it adds no header. The method either stays or
becomes `GET`, and the content is kept just if the method stays.
-/

namespace Courier

/-- The text of the `Host` header of a request that has exactly one. -/
def Descriptor.hostText? (d : Descriptor) : Option Text :=
  match d.fields.getAll FieldName.host.text with
  | [value] => value.text?
  | _ => none

theorem Descriptor.getAll_of_hostText? {d : Descriptor} {text : Text}
    (h : d.hostText? = some text) :
    ∃ value, d.fields.getAll FieldName.host.text = [value] ∧ value.text? = some text := by
  unfold Descriptor.hostText? at h
  split at h
  · next value hvalue => exact ⟨value, hvalue, h⟩
  · cases h

namespace Redirect

/-! ## Headers -/

theorem contains_of_contains_eraseAll {names : List FieldName} {h : Fields} {name : Text}
    (hc : (eraseAll names h).contains name = true) : h.contains name = true := by
  induction names generalizing h with
  | nil => exact hc
  | cons n rest ih => exact Fields.contains_of_contains_erase (ih hc)

theorem not_contains_eraseAll {names : List FieldName} {h : Fields} {name : Text}
    (hn : ∃ n ∈ names, n.text = name.lower) : (eraseAll names h).contains name = false := by
  obtain ⟨n, hmem, hn⟩ := hn
  induction names generalizing h with
  | nil => cases hmem
  | cons m rest ih =>
    rcases List.mem_cons.1 hmem with rfl | hmem
    · rw [← Bool.not_eq_true]
      intro hc
      have hc : (h.erase n.text).contains name = true := contains_of_contains_eraseAll hc
      rw [Fields.not_contains_erase hn] at hc
      exact Bool.false_ne_true hc
    · exact ih hmem

theorem contains_of_contains_ite {change : Fields → Fields} {name : Text} {applies : Bool}
    {h : Fields} (hchange : (change h).contains name = true → h.contains name = true)
    (hc : (if applies then change h else h).contains name = true) : h.contains name = true := by
  split at hc
  · exact hchange hc
  · exact hc

theorem contains_of_contains_renameHost {h : Fields} {target : Uri} {name : Text}
    (hn : FieldName.host.text ≠ name.lower) (hc : (renameHost h target).contains name = true) :
    h.contains name = true := by
  unfold renameHost at hc
  split at hc
  · split at hc
    · exact Fields.contains_of_contains_replaceAll hn hc
    · exact hc
  · exact hc

/-! ## Content -/

/-- The headers that describe content, as they are usually written. -/
def contentNames : List Text :=
  ["Content-Length", "Content-Type", "Transfer-Encoding"].map String.toList

/-- A request without a header that describes content. -/
def BareOfContent (d : Descriptor) : Prop :=
  ∀ name ∈ contentNames, d.fields.contains name = false

theorem exists_field_of_contentName {name : Text} (h : name ∈ contentNames) :
    ∃ field ∈ contentFields, field.text = name.lower := by
  revert name
  decide

theorem host_ne_contentName {name : Text} (h : name ∈ contentNames) :
    FieldName.host.text ≠ name.lower := by
  revert name
  decide

theorem methodAfter_eq_or_eq_get (s : Status) (m : Method) :
    methodAfter s m = m ∨ methodAfter s m = .get := by
  unfold methodAfter
  split
  · exact .inr rfl
  · split
    · exact .inr rfl
    · exact .inl rfl

theorem methodAfter_get (s : Status) : methodAfter s .get = .get := by
  rcases methodAfter_eq_or_eq_get s .get with h | h <;> exact h

theorem methodAfter_head (s : Status) : methodAfter s .head = .head := by
  have hpost : (Method.head == Method.post) = false := by decide
  simp [methodAfter, hpost]

/-- The statuses that let the method be. -/
theorem methodAfter_of_preserving {s : Status} (hs : s.code = 307 ∨ s.code = 308) (m : Method) :
    methodAfter s m = m := by
  rcases hs with hs | hs <;> simp [methodAfter, hs]

/-! ## Values -/

/-- Dropping names leaves the values of the others. -/
theorem getAll_eraseAll {names : List FieldName} {h : Fields} {m : FieldName} (hm : m ∉ names) :
    (eraseAll names h).getAll m.text = h.getAll m.text := by
  induction names generalizing h with
  | nil => rfl
  | cons n rest ih =>
    rw [List.mem_cons, not_or] at hm
    have hother : n.text.lower ≠ m.text.lower := by
      rw [FieldName.lower_text, FieldName.lower_text, ne_eq, FieldName.text_inj]
      exact Ne.symm hm.1
    exact (ih hm.2).trans (Fields.getAll_erase hother)

theorem getAll_renameHost {h : Fields} {target : Uri} {m : FieldName} (hm : m ≠ .host) :
    (renameHost h target).getAll m.text = h.getAll m.text := by
  have hhost : FieldName.host.text ≠ m.text.lower := by
    rw [FieldName.lower_text, ne_eq, FieldName.text_inj]
    exact Ne.symm hm
  unfold renameHost
  split
  · split
    · exact Fields.getAll_insert_of_ne hhost
    · rfl
  · rfl

/-- Neither of the lists of headers that a hop drops has `Host` in it. -/
theorem getAll_host_dropped {keeps strips : Bool} {h : Fields} :
    (let kept := if keeps then h else eraseAll contentFields h
      if strips then eraseAll credentialFields kept else kept).getAll FieldName.host.text =
      h.getAll FieldName.host.text := by
  have hcontent : FieldName.host ∉ contentFields := by decide
  have hcredentials : FieldName.host ∉ credentialFields := by decide
  dsimp only
  split
  · rw [getAll_eraseAll hcredentials]
    split
    · rfl
    · exact getAll_eraseAll hcontent
  · split
    · rfl
    · exact getAll_eraseAll hcontent

/-! ## Hops -/

namespace Rules

variable {r : Rules} {d : Descriptor} {status : Status} {target : Uri} {name : Text}

/-- A hop adds no header. -/
theorem contains_of_contains_hop (hn : FieldName.host.text ≠ name.lower)
    (hc : (r.hop d status target).request.fields.contains name = true) :
    d.fields.contains name = true := by
  simp only [hop, nextHop] at hc
  -- The changes of the header list, undone from the last one back.
  have hc := contains_of_contains_ite
    (fun hc => contains_of_contains_renameHost hn hc) hc
  have hc := contains_of_contains_ite contains_of_contains_eraseAll hc
  split at hc
  · exact hc
  · exact contains_of_contains_eraseAll hc

theorem method_hop : (r.hop d status target).request.method = methodAfter status d.method := rfl

theorem keepsContent_iff : (r.hop d status target).keepsContent = true ↔
    (r.hop d status target).request.method = d.method := by
  rw [method_hop]
  exact beq_iff_eq

/-- A hop that changes the method drops the headers that describe content. -/
theorem bareOfContent_of_method_ne (h : (r.hop d status target).request.method ≠ d.method) :
    BareOfContent (r.hop d status target).request := by
  intro name hname
  have hkeeps : (methodAfter status d.method == d.method) = false := beq_eq_false_iff_ne.2 h
  rw [← Bool.not_eq_true]
  intro hc
  simp only [hop, nextHop, hkeeps, Bool.false_eq_true, if_false] at hc
  have hc := contains_of_contains_ite
    (fun hc => contains_of_contains_renameHost (host_ne_contentName hname) hc) hc
  have hc := contains_of_contains_ite contains_of_contains_eraseAll hc
  rw [not_contains_eraseAll (exists_field_of_contentName hname)] at hc
  exact Bool.false_ne_true hc

theorem bareOfContent_hop (h : BareOfContent d) :
    BareOfContent (r.hop d status target).request := by
  intro name hname
  rw [← Bool.not_eq_true]
  intro hc
  have hd := contains_of_contains_hop (host_ne_contentName hname) hc
  rw [h name hname] at hd
  exact Bool.false_ne_true hd

/-- A hop that keeps the method leaves the values of every name that is neither `Host` nor that of
a credential. -/
theorem getAll_hop_of_method_eq {m : FieldName}
    (h : (r.hop d status target).request.method = d.method) (hhost : m ≠ .host)
    (hm : m ∉ credentialFields) :
    (r.hop d status target).request.fields.getAll m.text = d.fields.getAll m.text := by
  have hkeeps : (methodAfter status d.method == d.method) = true := beq_iff_eq.2 h
  simp only [hop, nextHop, hkeeps, if_true]
  split
  · rw [getAll_renameHost hhost]
    split
    · exact getAll_eraseAll hm
    · rfl
  · split
    · exact getAll_eraseAll hm
    · rfl

/-- A hop to the same host leaves the headers alone that do not describe the content. -/
theorem getAll_hop_of_stays {m : FieldName} (hl : isCrossHost d.uri target = false)
    (hm : m ∉ contentFields) :
    (r.hop d status target).request.fields.getAll m.text = d.fields.getAll m.text := by
  simp only [hop, nextHop, hl, Bool.and_false, Bool.false_eq_true, if_false]
  split
  · rfl
  · exact getAll_eraseAll hm

/-- A hop to another host leaves one `Host` where there was one: the authority of the target. -/
theorem getAll_host_hop_of_crosses {name : Authority} {value : FieldValue}
    (hl : isCrossHost d.uri target = true) (hd : d.fields.getAll FieldName.host.text ≠ [])
    (hname : target.authority? = some name)
    (hvalue : FieldValue.ofOctets? (Octets.ofText name.text) = some value) :
    (r.hop d status target).request.fields.getAll FieldName.host.text = [value] := by
  have hrenamed : ∀ h : Fields,
      h.getAll FieldName.host.text = d.fields.getAll FieldName.host.text →
      (renameHost h target).getAll FieldName.host.text = [value] := by
    intro h hsame
    have hcontains : h.contains FieldName.host.text = true :=
      Fields.contains_of_getAll_ne_nil (hsame ▸ hd)
    simp only [renameHost, hcontains, hname, Option.bind_some, hvalue, if_true]
    exact Fields.getAll_insert rfl
  simp only [hop, nextHop, hl, if_true]
  exact hrenamed _ getAll_host_dropped

end Rules

end Redirect

end Courier
