import Courier.Proofs.Authority
import Courier.Proofs.Redirect.Credentials

/-!
# The header entries of a hop

A hop takes entries out of the header list and, where it leaves the host, has the place of the first
`Host` entry name the new one. Whether an entry is taken out depends on its name alone, so that what
is left is the list as it was, entry by entry and in its order, values and flags included.
-/

namespace Courier

theorem FieldName.exists_answers_iff {names : List Text} {fields : List FieldName} {n : FieldName}
    (h : names.map Text.lower = fields.map (·.text)) :
    (∃ name ∈ names, n.answers name = true) ↔ n ∈ fields := by
  have hmem : n.text ∈ names.map Text.lower ↔ n ∈ fields := by
    rw [h, List.mem_map]
    simp only [text_inj, exists_eq_right]
  rw [← hmem, List.mem_map]
  simp only [answers_iff, eq_comm (a := n.text)]

namespace Redirect

/-! ## Headers that are taken out -/

theorem entries_eraseAll (names : List FieldName) (h : Fields) :
    (eraseAll names h).entries = h.entries.filter (fun f => !names.contains f.name) := by
  induction names generalizing h with
  | nil => simp [eraseAll]
  | cons n rest ih =>
    have hstep : eraseAll (n :: rest) h = eraseAll rest (h.erase n.text) := rfl
    rw [hstep, ih, Fields.erase, List.filter_filter]
    apply List.filter_congr
    intro f _
    have hanswers : f.name.answers n.text = (f.name == n) := by
      rw [Bool.eq_iff_iff, FieldName.answers_text_iff, beq_iff_eq]
    rw [List.contains_cons, Bool.not_or, hanswers, Bool.and_comm]

theorem entries_eraseAll_if (applies : Bool) (names : List FieldName) (h : Fields) :
    (if applies then eraseAll names h else h).entries =
      h.entries.filter (fun f => !(applies && names.contains f.name)) := by
  cases applies with
  | false => simp
  | true => exact entries_eraseAll names h

namespace Rules

variable {r : Rules} {d : Descriptor} {status : Status} {target : Uri} {n : FieldName}

/-- The names that a hop takes out: those of headers that describe the content where it changes the
method, and those of credentials where they are kept back and it leaves the host. -/
def Drops (r : Rules) (d : Descriptor) (status : Status) (target : Uri) (n : FieldName) : Prop :=
  (methodAfter status d.method ≠ d.method ∧ ∃ name ∈ contentNames, n.answers name = true) ∨
    (r.stripsCredentials = true ∧ LeavesHost d.uri target) ∧
      ∃ name ∈ credentialNames, n.answers name = true

instance : Decidable (r.Drops d status target n) :=
  inferInstanceAs (Decidable (_ ∨ _))

/-- Whether a hop leaves an entry in the list. -/
def keeps (r : Rules) (d : Descriptor) (status : Status) (target : Uri) (f : Field) : Bool :=
  !Decidable.decide (r.Drops d status target f.name)

theorem drops_iff : r.Drops d status target n ↔
    (methodAfter status d.method ≠ d.method ∧ n ∈ contentFields) ∨
      (r.stripsCredentials = true ∧ isCrossHost d.uri target = true) ∧ n ∈ credentialFields := by
  have hcontent : contentNames.map Text.lower = contentFields.map (·.text) := by decide
  have hcredential : credentialNames.map Text.lower = credentialFields.map (·.text) := by decide
  rw [Drops, FieldName.exists_answers_iff hcontent, FieldName.exists_answers_iff hcredential,
    isCrossHost_iff]

/-- `Host` is never taken out. -/
theorem keeps_of_host {f : Field} (hf : f.name = .host) : r.keeps d status target f = true := by
  have hcontent : FieldName.host ∉ contentFields := by decide
  have hcredential : FieldName.host ∉ credentialFields := by decide
  rw [keeps, hf, Bool.not_eq_true', decide_eq_false_iff_not, drops_iff]
  rintro (⟨-, hn⟩ | ⟨-, hn⟩)
  · exact hcontent hn
  · exact hcredential hn

theorem dropped_eq :
    (let kept := if methodAfter status d.method == d.method then d.fields
        else eraseAll contentFields d.fields
      if r.stripsCredentials && isCrossHost d.uri target then eraseAll credentialFields kept
        else kept) =
      ⟨d.fields.entries.filter (r.keeps d status target)⟩ := by
  have hcontent : ∀ same : Bool,
      (if same then d.fields else eraseAll contentFields d.fields).entries =
        d.fields.entries.filter (fun f => !(!same && contentFields.contains f.name)) := by
    intro same
    rw [← entries_eraseAll_if]
    cases same <;> rfl
  apply Fields.ext
  dsimp only
  rw [entries_eraseAll_if, hcontent, List.filter_filter]
  apply List.filter_congr
  intro f _
  rw [keeps, Bool.and_comm, ← Bool.not_or]
  congr 1
  rw [Bool.eq_iff_iff, decide_eq_true_iff, drops_iff]
  simp

/-- The header list of a hop: the entries that are left in, with `Host` renamed where it leaves the
host. -/
theorem fields_hop : (r.hop d status target).request.fields =
    if isCrossHost d.uri target then
      renameHost ⟨d.fields.entries.filter (r.keeps d status target)⟩ target
    else ⟨d.fields.entries.filter (r.keeps d status target)⟩ := by
  rw [← dropped_eq]
  rfl

theorem contains_host_kept :
    (Fields.mk (d.fields.entries.filter (r.keeps d status target))).contains FieldName.host.text =
      d.fields.contains FieldName.host.text := by
  rw [Fields.contains, Fields.contains, List.any_filter]
  refine congrArg (d.fields.entries.any ·) (funext fun f => ?_)
  by_cases hf : f.name.answers FieldName.host.text = true
  · rw [keeps_of_host (FieldName.answers_text_iff.1 hf), Bool.true_and]
  · simp [hf]

/-- **A hop changes what it has to and nothing else.** It keeps the version, its URI is the target,
and its method is that after the status. The header list is what was there, in its order, without
the entries of the names that are dropped; and if the hop leaves the host and there is a `Host`
header, one entry with the authority of the target stands where the first `Host` entry stood, and
the others are gone. Every target that was read has an authority as it is asked for here
(`Uri.check_of_parse`). -/
theorem entries_of_hop
    (hauthority : ∀ name, target.authority? = some name → Authority.check name.text = .ok name) :
    let next := (r.hop d status target).request
    next.version = d.version ∧ next.uri = target ∧ next.method = methodAfter status d.method ∧
    (¬ (LeavesHost d.uri target ∧ d.fields.contains FieldName.host.text = true) →
      next.fields.entries = d.fields.entries.filter (r.keeps d status target)) ∧
    ∀ before first after, LeavesHost d.uri target → d.fields.entries = before ++ first :: after →
      (∀ f ∈ before, f.name ≠ .host) → first.name = .host →
      ∃ name value, target.authority? = some name ∧ value.octets = Octets.ofText name.text ∧
        value.sensitive = false ∧
        next.fields.entries = before.filter (r.keeps d status target) ++ ⟨.host, value⟩ ::
          after.filter fun f => f.name != .host && r.keeps d status target f := by
  intro next
  refine ⟨rfl, rfl, rfl, ?_, ?_⟩
  · intro hplain
    change (r.hop d status target).request.fields.entries = _
    rw [fields_hop]
    split
    · next hcrosses =>
      have habsent : ¬ d.fields.contains FieldName.host.text = true := fun hc =>
        hplain ⟨isCrossHost_iff.1 hcrosses, hc⟩
      rw [renameHost, contains_host_kept, if_neg habsent]
    · rfl
  · intro before first after hleaves hentries hbefore hfirst
    obtain ⟨name, hname⟩ : ∃ name, target.authority? = some name := by
      obtain ⟨host, hhost, -⟩ := hleaves
      obtain ⟨name, hname, -⟩ := Option.map_eq_some_iff.1 hhost
      exact ⟨name, hname⟩
    obtain ⟨value, hvalue, -⟩ :=
      FieldValue.ofOctets?_ofText (Authority.isVisibleChar_of_check (hauthority name hname))
    obtain ⟨hoctets, hflag⟩ := FieldValue.eq_of_ofOctets? hvalue
    refine ⟨name, value, hname, hoctets, hflag, ?_⟩
    have hkept : d.fields.entries.filter (r.keeps d status target) =
        before.filter (r.keeps d status target) ++
          first :: after.filter (r.keeps d status target) := by
      rw [hentries, List.filter_append, List.filter_cons_of_pos (keeps_of_host hfirst)]
    have hothers : ∀ f ∈ before.filter (r.keeps d status target), f.name ≠ .host := fun f hf =>
      hbefore f (List.mem_filter.1 hf).1
    have hcontains : d.fields.contains FieldName.host.text = true := by
      rw [Fields.contains_iff, hentries, FieldName.lower_text]
      exact ⟨first, List.mem_append_right _ List.mem_cons_self, congrArg FieldName.text hfirst⟩
    change (r.hop d status target).request.fields.entries = _
    rw [fields_hop, if_pos (isCrossHost_iff.2 hleaves), renameHost, contains_host_kept,
      if_pos hcontains, hname, Option.bind_some, hvalue]
    dsimp only
    rw [Fields.insert, Fields.entries_replaceAll_of_split hkept hothers hfirst, List.filter_filter,
      List.append_assoc]
    rfl

/-- A form with its content described, a user signed in, and headers that come twice. -/
def form : Descriptor :=
  { method := .post
    uri := .absolute "http".toList ⟨"a.test".toList⟩ ['/'] none
    fields := ⟨[⟨.accept, { octets := [109] }⟩, ⟨.host, { octets := [110] }⟩,
      ⟨.authorization, { octets := [111], sensitive := true }⟩, ⟨.contentType, { octets := [112] }⟩,
      ⟨.host, { octets := [113] }⟩, ⟨.accept, { octets := [114], sensitive := true }⟩]⟩ }

theorem entries_of_hop_form :
    (∃ value, value.octets = Octets.ofText "b.test:81".toList ∧
      (({} : Rules).hop form ⟨302⟩
        (.absolute "http".toList ⟨"b.test:81".toList⟩ ['/'] none)).request.fields.entries =
        [⟨.accept, { octets := [109] }⟩, ⟨.host, value⟩,
          ⟨.accept, { octets := [114], sensitive := true }⟩]) ∧
    (({} : Rules).hop form ⟨307⟩ (.origin ['/'] none)).request.fields = form.fields := by
  constructor
  · obtain ⟨-, -, -, -, haway⟩ := @entries_of_hop {} form ⟨302⟩
      (.absolute "http".toList ⟨"b.test:81".toList⟩ ['/'] none)
      (fun _ => Uri.check_of_parse (t := "http://b.test:81/".toList) rfl)
    obtain ⟨name, value, hname, hoctets, -, hentries⟩ :=
      haway [_] ⟨.host, { octets := [110] }⟩ _ (by decide) rfl (by decide) rfl
    cases hname
    exact ⟨value, hoctets, hentries⟩
  · obtain ⟨-, -, -, hstays, -⟩ := @entries_of_hop {} form ⟨307⟩ (.origin ['/'] none) nofun
    exact Fields.ext (hstays (by decide))

end Rules

end Redirect

end Courier
