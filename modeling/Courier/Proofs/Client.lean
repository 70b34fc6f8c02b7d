import Courier.Proofs.Draft.Refusal

/-!
# Clients of configurations

A configuration makes a client just if it passes its check, and a client that it made refuses no
request but one whose target cannot be read. Whether a configuration is judged by the ranges of its
settings depends on its timeout alone.
-/

namespace Courier.Config

variable {c : Config}

/-- An error that names the first of the settings that is out of its range. -/
inductive NamesFirst (c : Config) (e : ConfigError) : Prop
  | timeout (hout : ¬ c.TimeoutInRange) (reason : String)
    (he : e = .timeout ("read timeout" ++ reason))
  | limit (htimeout : c.TimeoutInRange) (hout : ¬ c.LimitInRange) (reason : String)
    (he : e = .parameter ("max redirects" ++ reason))
  | agent (htimeout : c.TimeoutInRange) (hlimit : c.LimitInRange) (hout : ¬ c.AgentUsable)
    (reason : String) (he : e = .parameter ("user agent" ++ reason))

/-- A configuration is accepted just if all its settings are in range, and so by a client; if not,
the error names the first that is not. A client that was made of it, whatever its executor did
since, makes a request for every target that can be read. -/
structure Judged (c : Config) : Prop where
  accepts : c.validate = .ok () ↔ c.TimeoutInRange ∧ c.LimitInRange ∧ c.AgentUsable
  names : ∀ e, c.validate = .error e → c.NamesFirst e
  client : ∀ peer, (∃ client, Client.ofConfig peer c = .ok client) ↔
    c.TimeoutInRange ∧ c.LimitInRange ∧ c.AgentUsable
  request : ∀ peer client executor method text f, Client.ofConfig peer c = .ok client →
    Client.request { client with executor } method text = .error f →
      ∃ reason, Uri.parse text = .error reason ∧ f = .ofCause .builder (.uri reason)

/-! ## Clients -/

theorem exists_ofConfig_iff (peer : Peer) (c : Config) :
    (∃ client, Client.ofConfig peer c = .ok client) ↔ c.validate = .ok () := by
  unfold Client.ofConfig
  cases c.validate with
  | ok u => simp
  | error e => simp

/-- A client of a checked configuration refuses only targets that cannot be read. -/
theorem parse_of_request_error {peer : Peer} {client : Client} {executor : Executor}
    {method : Method} {text : Text} {f : Failure} (hclient : Client.ofConfig peer c = .ok client)
    (h : Client.request { client with executor } method text = .error f) :
    ∃ reason, Uri.parse text = .error reason ∧ f = .ofCause .builder (.uri reason) := by
  have hmade : Client.Made { client with executor } :=
    .withExecutor (.ofConfig hclient) executor
  rcases hmade.request_cases method text with ⟨reason, hparse, hrequest⟩ | ⟨q, -, hrequest⟩
  · cases h.symm.trans hrequest
    exact ⟨reason, hparse, rfl⟩
  · cases h.symm.trans hrequest

/-! ## The verdict -/

/-- A configuration is judged as it should be where its timeout passes only if it is in range. -/
theorem judged_of_inRange (hrange : c.TimeoutPasses → c.TimeoutInRange) : c.Judged := by
  have hpasses : c.TimeoutInRange → c.TimeoutPasses := by
    intro h ms hms
    have hms := h ms hms
    omega
  have haccepts : c.validate = .ok () ↔ c.TimeoutInRange ∧ c.LimitInRange ∧ c.AgentUsable := by
    rcases validate_cases c with ⟨hout, reason, hcheck⟩ | ⟨-, hout, reason, hcheck⟩ |
      ⟨-, -, hout, reason, hcheck⟩ | ⟨htimeout, hlimit, hagent, hcheck⟩
    · simp [hcheck, mt hpasses hout]
    · simp [hcheck, hout]
    · simp [hcheck, hout]
    · simp [hcheck, hrange htimeout, hlimit, hagent]
  refine ⟨haccepts, ?_, ?_, ?_⟩
  · intro e he
    rcases validate_cases c with ⟨hout, reason, hcheck⟩ | ⟨htimeout, hout, reason, hcheck⟩ |
      ⟨htimeout, hlimit, hout, reason, hcheck⟩ | ⟨-, -, -, hcheck⟩
    all_goals cases he.symm.trans hcheck
    · exact .timeout (mt hpasses hout) reason rfl
    · exact .limit (hrange htimeout) hout reason rfl
    · exact .agent (hrange htimeout) hlimit hout reason rfl
  · intro peer
    rw [exists_ofConfig_iff, haccepts]
  · intro peer client executor method text f hclient h
    exact parse_of_request_error hclient h

/-- A timeout that passes and is out of range is neither refused nor named. -/
theorem not_judged_of_passes (hpasses : c.TimeoutPasses) (hout : ¬ c.TimeoutInRange) :
    ¬ c.Judged := by
  intro hjudged
  have hnames : ∀ e reason, e = .parameter reason → ¬ c.NamesFirst e := by
    rintro e reason rfl (⟨-, reason', he⟩ | ⟨htimeout, -, -, -⟩ | ⟨htimeout, -, -, -, -⟩)
    · cases he
    · exact hout htimeout
    · exact hout htimeout
  rcases validate_cases c with ⟨hfails, -, -⟩ | ⟨-, -, reason, hcheck⟩ |
    ⟨-, -, -, reason, hcheck⟩ | ⟨-, -, -, hcheck⟩
  · exact hfails hpasses
  · exact hnames _ _ rfl (hjudged.names _ hcheck)
  · exact hnames _ _ rfl (hjudged.names _ hcheck)
  · exact hout (hjudged.accepts.1 hcheck).1

/-- **Configurations.** A configuration is judged by the ranges of its settings unless its timeout
exceeds an hour by less than a second. -/
theorem judged_iff (c : Config) :
    c.Judged ↔ ∀ ms ∈ c.readTimeoutMs, ¬ (3600000 < ms.toNat ∧ ms.toNat < 3601000) := by
  constructor
  · rintro hjudged ms hms ⟨hlong, hshort⟩
    refine not_judged_of_passes ?_ ?_ hjudged
    · intro ms' hms'
      cases hms.symm.trans hms'
      omega
    · intro hrange
      have hms := hrange ms hms
      omega
  · intro hgap
    refine judged_of_inRange fun hpasses ms hms => ?_
    have hms' := hpasses ms hms
    have hno := hgap ms hms
    omega

/-- One millisecond more than an hour passes. -/
theorem not_judged_hourAndMilli : ¬ Judged { readTimeoutMs := some 3600001 } := by
  apply not_judged_of_passes
  · rintro ms ⟨⟩
    decide
  · intro hrange
    exact absurd (hrange 3600001 rfl).2 (by decide)

end Courier.Config
