import Courier.Config
import Courier.Proofs.Field

/-!
# Checked configurations

A configuration is checked setting by setting, and the first setting that does not pass is the one
that is named. The timeout is checked in whole seconds: what exceeds an hour by less than a second
passes.
-/

namespace Courier.Config

variable {c : Config}

/-! ## The settings -/

/-- The timeout is absent, or between one millisecond and one hour. -/
def TimeoutInRange (c : Config) : Prop :=
  ∀ ms ∈ c.readTimeoutMs, 1 ≤ ms.toNat ∧ ms.toNat ≤ 3600000

/-- The limit for redirects is at most a hundred. -/
def LimitInRange (c : Config) : Prop :=
  c.maxRedirects.toNat ≤ 100

/-- The user agent is absent, or it is not empty and can be a header value. -/
def AgentUsable (c : Config) : Prop :=
  ∀ agent ∈ c.userAgent, agent ≠ "" ∧ IsValueText agent

/-! ## The checks -/

/-- The check of the timeout. -/
def checkTimeout (c : Config) : Except ConfigError Unit :=
  match c.readTimeout with
  | some timeout => validateTimeout timeout "read timeout"
  | none => .ok ()

/-- The check of the limit for redirects. -/
def checkLimit (c : Config) : Except ConfigError Unit :=
  if maxRedirectBudget < c.maxRedirects.toNat then
    .error (.parameter ("max redirects must not exceed " ++ inspect maxRedirectBudget))
  else .ok ()

/-- The check of the user agent. -/
def checkAgent (c : Config) : Except ConfigError Unit :=
  match c.userAgent with
  | some agent => validateUserAgent agent
  | none => .ok ()

theorem validate_eq (c : Config) : c.validate = (do
    c.checkTimeout
    c.checkLimit
    c.checkAgent) := by
  unfold validate checkTimeout checkLimit checkAgent
  by_cases hover : maxRedirectBudget < c.maxRedirects.toNat
  · simp only [if_pos hover]
    cases c.readTimeout with
    | none => rfl
    | some timeout =>
      dsimp only
      cases validateTimeout timeout "read timeout" <;> rfl
  · simp only [if_neg hover]
    cases c.readTimeout with
    | none => cases c.userAgent <;> rfl
    | some timeout =>
      dsimp only
      cases validateTimeout timeout "read timeout" with
      | error e => rfl
      | ok u => cases c.userAgent <;> rfl

/-- The check of a timeout in milliseconds: a timeout that has no more whole seconds than an hour
passes. -/
theorem validateTimeout_ofMillis (ms : Nat) (name : String) :
    validateTimeout (.ofMillis ms) name =
      if ms = 0 then .error (.timeout (name ++ " cannot be zero"))
      else if 3601000 ≤ ms then .error (.timeout (name ++ " cannot exceed 1 hour"))
      else .ok () := by
  have hzero : (Duration.ofMillis ms).nanos = 0 ↔ ms = 0 := by
    change ms * 1000000 = 0 ↔ ms = 0
    omega
  have hlong : 3600 < (Duration.ofMillis ms).secs ↔ 3601000 ≤ ms := by
    change 3600 < ms * 1000000 / 1000000000 ↔ 3601000 ≤ ms
    omega
  simp only [validateTimeout, hzero, hlong]

/-- The timeouts that pass. -/
def TimeoutPasses (c : Config) : Prop :=
  ∀ ms ∈ c.readTimeoutMs, 1 ≤ ms.toNat ∧ ms.toNat < 3601000

theorem checkTimeout_cases (c : Config) : (c.TimeoutPasses ∧ c.checkTimeout = .ok ()) ∨
    ¬ c.TimeoutPasses ∧
      ∃ reason, c.checkTimeout = .error (.timeout ("read timeout" ++ reason)) := by
  unfold TimeoutPasses checkTimeout readTimeout
  cases c.readTimeoutMs with
  | none => exact .inl ⟨fun ms hms => (nomatch hms), rfl⟩
  | some ms =>
    dsimp only [Option.map_some]
    rw [validateTimeout_ofMillis]
    by_cases hzero : ms.toNat = 0
    · rw [if_pos hzero]
      exact .inr ⟨fun h => absurd (h ms rfl).1 (by omega), _, rfl⟩
    rw [if_neg hzero]
    by_cases hlong : 3601000 ≤ ms.toNat
    · rw [if_pos hlong]
      exact .inr ⟨fun h => absurd (h ms rfl).2 (by omega), _, rfl⟩
    · rw [if_neg hlong]
      refine .inl ⟨?_, rfl⟩
      rintro ms' ⟨⟩
      omega

theorem checkLimit_cases (c : Config) : (c.LimitInRange ∧ c.checkLimit = .ok ()) ∨
    ¬ c.LimitInRange ∧
      ∃ reason, c.checkLimit = .error (.parameter ("max redirects" ++ reason)) := by
  unfold LimitInRange checkLimit maxRedirectBudget
  by_cases hover : 100 < c.maxRedirects.toNat
  · rw [if_pos hover]
    refine .inr ⟨by omega, " must not exceed " ++ inspect 100, ?_⟩
    rw [← String.append_assoc]
    rfl
  · rw [if_neg hover]
    exact .inl ⟨by omega, rfl⟩

theorem checkAgent_cases (c : Config) : (c.AgentUsable ∧ c.checkAgent = .ok ()) ∨
    ¬ c.AgentUsable ∧
      ∃ reason, c.checkAgent = .error (.parameter ("user agent" ++ reason)) := by
  unfold AgentUsable checkAgent
  cases c.userAgent with
  | none => exact .inl ⟨fun agent hagent => (nomatch hagent), rfl⟩
  | some agent =>
    dsimp only [validateUserAgent]
    by_cases hempty : agent = ""
    · subst hempty
      exact .inr ⟨fun h => (h "" rfl).1 rfl, " cannot be empty", rfl⟩
    have hnonempty : ¬ agent.isEmpty = true := by simpa using hempty
    rw [if_neg hnonempty]
    by_cases hvalue : IsValueText agent
    · have hsome : ¬ (FieldValue.ofString? agent).isNone = true := by
        rw [Option.isNone_iff_eq_none, FieldValue.ofString?_eq_none_iff]
        exact not_not_intro hvalue
      rw [if_neg hsome]
      refine .inl ⟨?_, rfl⟩
      rintro agent' ⟨⟩
      exact ⟨hempty, hvalue⟩
    · rw [FieldValue.ofString?_eq_none_iff.2 hvalue]
      exact .inr ⟨fun h => hvalue (h agent rfl).2, " is not a valid header value", rfl⟩

/-! ## The verdict -/

/-- All that the check of a configuration can come to: the first setting that does not pass is named,
and there is none only if the configuration is accepted. -/
theorem validate_cases (c : Config) :
    (¬ c.TimeoutPasses ∧
      ∃ reason, c.validate = .error (.timeout ("read timeout" ++ reason))) ∨
    (c.TimeoutPasses ∧ ¬ c.LimitInRange ∧
      ∃ reason, c.validate = .error (.parameter ("max redirects" ++ reason))) ∨
    (c.TimeoutPasses ∧ c.LimitInRange ∧ ¬ c.AgentUsable ∧
      ∃ reason, c.validate = .error (.parameter ("user agent" ++ reason))) ∨
    (c.TimeoutPasses ∧ c.LimitInRange ∧ c.AgentUsable ∧ c.validate = .ok ()) := by
  rw [validate_eq]
  rcases checkTimeout_cases c with ⟨htimeout, hcheck⟩ | ⟨hout, reason, hcheck⟩
  · rw [hcheck]
    rcases checkLimit_cases c with ⟨hlimit, hcheck⟩ | ⟨hout, reason, hcheck⟩
    · rw [hcheck]
      rcases checkAgent_cases c with ⟨hagent, hcheck⟩ | ⟨hout, reason, hcheck⟩
      · exact .inr (.inr (.inr ⟨htimeout, hlimit, hagent, hcheck⟩))
      · exact .inr (.inr (.inl ⟨htimeout, hlimit, hout, reason, hcheck⟩))
    · rw [hcheck]
      exact .inr (.inl ⟨htimeout, hout, reason, rfl⟩)
  · rw [hcheck]
    exact .inl ⟨hout, reason, rfl⟩

theorem agentUsable_of_validate (hvalid : c.validate = .ok ()) : c.AgentUsable := by
  rcases validate_cases c with ⟨-, reason, hcheck⟩ | ⟨-, -, reason, hcheck⟩ |
    ⟨-, -, -, reason, hcheck⟩ | ⟨-, -, hagent, -⟩
  · cases hvalid.symm.trans hcheck
  · cases hvalid.symm.trans hcheck
  · cases hvalid.symm.trans hcheck
  · exact hagent

end Courier.Config
