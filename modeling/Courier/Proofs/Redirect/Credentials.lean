import Courier.Proofs.Redirect.Chain
import Courier.Proofs.Redirect.Hop
import Mathlib.Logic.Basic

/-!
# Credentials along a chain of hops

A hop compares its target with the request just before it, never with the first request of the
chain. That is enough: a request either carries no credentials or has not left the host where the
chain began, and each hop keeps this. What is stripped does not come back, since a hop adds no
header but `Host`.
-/

namespace Courier.Redirect

/-! ## Hosts -/

/-- A target that names another host or port than the home target does. -/
def LeavesHost (home target : Uri) : Prop :=
  ∃ host, target.host? = some host ∧
    ((∀ own, home.host? = some own → own.lower ≠ host.lower) ∨
      effectivePort? home ≠ effectivePort? target)

theorem isCrossHost_iff {home target : Uri} :
    isCrossHost home target = true ↔ LeavesHost home target := by
  unfold isCrossHost LeavesHost sameHost Text.sameLetters
  cases target.host? with
  | none => simp
  | some host =>
    cases home.host? with
    | none => simp
    | some own =>
      by_cases hp : effectivePort? home = effectivePort? target <;> simp [hp]

instance {home target : Uri} : Decidable (LeavesHost home target) :=
  decidable_of_iff _ isCrossHost_iff

theorem not_leavesHost_self (u : Uri) : ¬ LeavesHost u u := by
  rintro ⟨host, hu, hhost | hport⟩
  · exact hhost host hu rfl
  · exact hport rfl

/-- A target that does not leave its predecessor leaves only what that one has left. -/
theorem not_leavesHost_trans {u v w : Uri} (huv : ¬ LeavesHost u v) (hvw : ¬ LeavesHost v w) :
    ¬ LeavesHost u w := by
  rintro ⟨host, hw, hleft⟩
  -- `w` names a host, so `v` names the same one, and then so does `u`.
  simp only [LeavesHost, not_exists, not_and, not_or, not_forall, not_not] at huv hvw
  obtain ⟨⟨mid, hv, hmid⟩, hvport⟩ := hvw host hw
  obtain ⟨⟨own, hu, hown⟩, huport⟩ := huv mid hv
  rcases hleft with hhost | hport
  · exact hhost own hu (hown.trans hmid)
  · exact hport (huport.trans hvport)

/-! ## Credentials -/

/-- The headers that hold credentials, as they are usually written. -/
def credentialNames : List Text :=
  ["Authorization", "Cookie", "Cookie2", "Proxy-Authorization", "WWW-Authenticate"].map
    String.toList

/-- A request with a header that holds credentials. -/
def CarriesCredentials (d : Descriptor) : Prop :=
  ∃ name ∈ credentialNames, d.fields.contains name = true

instance {d : Descriptor} : Decidable (CarriesCredentials d) :=
  inferInstanceAs (Decidable (∃ name ∈ credentialNames, d.fields.contains name = true))

theorem exists_field_of_credentialName {name : Text} (h : name ∈ credentialNames) :
    ∃ field ∈ credentialFields, field.text = name.lower := by
  revert name
  decide

theorem host_ne_credentialName {name : Text} (h : name ∈ credentialNames) :
    FieldName.host.text ≠ name.lower := by
  revert name
  decide

/-! ## Hops -/

namespace Rules

variable {r : Rules} {home target : Uri} {d : Descriptor} {status : Status}

theorem carriesCredentials_of_hop (h : CarriesCredentials (r.hop d status target).request) :
    CarriesCredentials d := by
  obtain ⟨name, hname, hc⟩ := h
  exact ⟨name, hname, contains_of_contains_hop (host_ne_credentialName hname) hc⟩

/-- A hop that leaves the host or port of its request takes no credentials along. -/
theorem not_carriesCredentials_of_leavesHost (hs : r.stripsCredentials = true)
    (hl : LeavesHost d.uri target) : ¬ CarriesCredentials (r.hop d status target).request := by
  rintro ⟨name, hname, hc⟩
  simp only [hop, nextHop, hs, isCrossHost_iff.2 hl, Bool.and_self, if_true] at hc
  have hc := contains_of_contains_renameHost (host_ne_credentialName hname) hc
  rw [not_contains_eraseAll (exists_field_of_credentialName hname)] at hc
  exact Bool.false_ne_true hc

/-- The invariant of a chain that began at `home`. -/
def KeepsCredentialsHome (home : Uri) (d : Descriptor) : Prop :=
  CarriesCredentials d → ¬ LeavesHost home d.uri

theorem keepsCredentialsHome_hop (hs : r.stripsCredentials = true)
    (h : KeepsCredentialsHome home d) :
    KeepsCredentialsHome home (r.hop d status target).request := by
  intro hc
  have hstay : ¬ LeavesHost d.uri target := fun hl =>
    not_carriesCredentials_of_leavesHost hs hl hc
  exact not_leavesHost_trans (h (carriesCredentials_of_hop hc)) hstay

/-- **Credentials stay at home.** In a chain of hops of any length, no request that names another
host or port than the first one carries credentials; and once a hop has left the host of its
predecessor, or that of the first request, no later request carries any. -/
theorem no_credentials_away_from_home (hs : r.stripsCredentials = true) (request : Descriptor)
    (turns : List Turn) :
    (∀ (k : Nat) (d : Descriptor), (r.chain request turns)[k]? = some d →
      LeavesHost request.uri d.uri → ¬ CarriesCredentials d) ∧
    (∀ (j : Nat) (d next : Descriptor), (r.chain request turns)[j]? = some d →
      (r.chain request turns)[j + 1]? = some next →
      LeavesHost d.uri next.uri ∨ LeavesHost request.uri next.uri →
      ∀ (k : Nat) (later : Descriptor), j < k → (r.chain request turns)[k]? = some later →
        ¬ CarriesCredentials later) := by
  have hhome : ∀ d ∈ r.chain request turns, KeepsCredentialsHome request.uri d :=
    forall_mem_chain (fun _ _ _ h => keepsCredentialsHome_hop hs h)
      fun _ => not_leavesHost_self request.uri
  have haway : ∀ (k : Nat) (d : Descriptor), (r.chain request turns)[k]? = some d →
      LeavesHost request.uri d.uri → ¬ CarriesCredentials d := fun k d hk hl hc =>
    hhome d (List.mem_of_getElem? hk) hc hl
  refine ⟨haway, ?_⟩
  intro j d next hj hn hl k later hjk hk
  have hnext : ¬ CarriesCredentials next := by
    rcases hl with hl | hl
    · obtain ⟨turn, -, rfl⟩ := exists_hop_of_neighbours hj hn
      exact not_carriesCredentials_of_leavesHost hs hl
    · exact haway (j + 1) next hn hl
  have hkeeps : ∀ d status target, ¬ CarriesCredentials d →
      ¬ CarriesCredentials (r.hop d status target).request := fun _ _ _ h hc =>
    h (carriesCredentials_of_hop hc)
  exact holds_later_of_holds hkeeps hn hnext hjk hk

/-- A request to one host with a user signed in. -/
def signedIn : Descriptor :=
  { uri := .absolute "http".toList ⟨"a.test".toList⟩ ['/'] none
    fields := Fields.empty.append .authorization { octets := Octets.ofString "Basic x" } }

/-- Two redirects: away from the host of `signedIn`, and back. -/
def roundTrip : List Turn :=
  [⟨⟨302⟩, .absolute "http".toList ⟨"b.test".toList⟩ ['/'] none⟩, ⟨⟨307⟩, signedIn.uri⟩]

theorem no_credentials_along_roundTrip :
    CarriesCredentials signedIn ∧
    (∃ away, (({} : Rules).chain signedIn roundTrip)[1]? = some away ∧
      LeavesHost signedIn.uri away.uri ∧ ¬ CarriesCredentials away) ∧
    ∃ back, (({} : Rules).chain signedIn roundTrip)[2]? = some back ∧
      back.uri = signedIn.uri ∧ ¬ CarriesCredentials back := by
  have hboth := no_credentials_away_from_home (r := {}) rfl signedIn roundTrip
  refine ⟨by decide, ⟨_, rfl, by decide, ?_⟩, _, rfl, rfl, ?_⟩
  · exact hboth.1 1 _ rfl (by decide)
  · exact hboth.2 0 _ _ rfl rfl (Or.inl (by decide)) 2 _ (by decide) rfl

end Rules

end Courier.Redirect
