import Courier.Failure
import Courier.Field
import Courier.Protocol
import Courier.Redirect.Limit

/-!
# Client configurations

The settings that a client gives to each of its requests, the checks that they have to pass, and
their written form, which is a JSON object.
-/

namespace Courier

/-- The versions that a client can be set to. -/
inductive ConfigVersion
  | http10
  | http11
deriving DecidableEq, Repr

namespace ConfigVersion

def toVersion : ConfigVersion → Version
  | http10 => .http10
  | http11 => .http11

/-- Reads the name of a version. -/
def ofName? (name : String) : Option ConfigVersion :=
  if name = "HTTP/1.0" then some http10
  else if name = "HTTP/1.1" then some http11
  else none

instance : Inspect ConfigVersion where
  inspect
    | http10 => "Http10"
    | http11 => "Http11"

end ConfigVersion

/-- The settings of a client (`ClientConfig`). -/
structure Config where
  version : ConfigVersion := .http11
  followsRedirects : Bool := false
  maxRedirects : UInt32 := .ofNat Redirect.Limit.usual
  readTimeoutMs : Option UInt64 := none
  stripsCredentials : Bool := true
  userAgent : Option String := none
deriving DecidableEq, Repr

namespace Config

/-! ## Presets -/

/-- Never follows redirects (`no_redirects`). -/
def noRedirects : Config := { followsRedirects := false }

/-- Follows up to ten redirects, waits half a minute and names itself (`browser_like`). -/
def browserLike : Config where
  followsRedirects := true
  maxRedirects := 10
  readTimeoutMs := some 30000
  userAgent := some "reqflow/0.1.0"

/-! ## Settings of requests -/

/-- The longest wait for a head. -/
def readTimeout (c : Config) : Option Duration :=
  c.readTimeoutMs.map fun ms => .ofMillis ms.toNat

/-- The limit for redirects that requests start with. -/
def redirectLimit (c : Config) : Redirect.Limit :=
  if c.followsRedirects then .max c.maxRedirects.toNat else .disabled

/-! ## Checks -/

/-- Checks a timeout: it is not zero, and has no more than an hour's worth of whole seconds
(`validate_timeout`). -/
def validateTimeout (timeout : Duration) (name : String) : Except ConfigError Unit :=
  if timeout.nanos = 0 then .error (.timeout (name ++ " cannot be zero"))
  else if 3600 < timeout.secs then .error (.timeout (name ++ " cannot exceed 1 hour"))
  else .ok ()

/-- The largest limit for redirects. -/
def maxRedirectBudget : Nat := 100

/-- Checks a user agent, which becomes a header value. -/
def validateUserAgent (agent : String) : Except ConfigError Unit :=
  if agent.isEmpty then .error (.parameter "user agent cannot be empty")
  else if (FieldValue.ofString? agent).isNone then
    .error (.parameter "user agent is not a valid header value")
  else .ok ()

/-- Checks the settings, timeout first and user agent last. -/
def validate (c : Config) : Except ConfigError Unit := do
  if let some timeout := c.readTimeout then validateTimeout timeout "read timeout"
  if maxRedirectBudget < c.maxRedirects.toNat then
    throw (.parameter ("max redirects must not exceed " ++ inspect maxRedirectBudget))
  if let some agent := c.userAgent then validateUserAgent agent

/-! ## Writing -/

/-- The settings as a JSON object. -/
def toJson (c : Config) : Json :=
  .object
    [("version", .string c.version.toVersion.toString),
      ("follow_redirects", .bool c.followsRedirects),
      ("max_redirects", .integer c.maxRedirects.toNat),
      ("read_timeout_ms", match c.readTimeoutMs with
        | some ms => .integer ms.toNat
        | none => .null),
      ("strip_sensitive_headers_on_redirect", .bool c.stripsCredentials),
      ("user_agent", match c.userAgent with
        | some agent => .string agent
        | none => .null)]

instance : Inspect Config where
  inspect c := Inspect.record "ClientConfig"
    [("version", inspect c.version), ("follow_redirects", inspect c.followsRedirects),
      ("max_redirects", inspect c.maxRedirects.toNat),
      ("read_timeout_ms", inspect (c.readTimeoutMs.map (·.toNat))),
      ("strip_sensitive_headers_on_redirect", inspect c.stripsCredentials),
      ("user_agent", inspect c.userAgent)]

end Config

end Courier
