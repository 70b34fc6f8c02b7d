import Courier.Config
import Courier.Request

/-!
# Clients

A client is an executor with a checked configuration, whose settings every request of the client
starts with.
-/

namespace Courier

/-- A client (`HttpClient`). -/
structure Client where
  executor : Executor
  config : Config := {}

namespace Client

/-- The client with these settings. -/
def configured (peer : Peer) (config : Config) : Client where
  executor :=
    { peer
      rules := { stripsCredentials := config.stripsCredentials }
      readTimeout := config.readTimeout }
  config

/-- The client with the usual settings. -/
def ofPeer (peer : Peer) : Client :=
  configured peer {}

/-- The client with these settings, which are checked (`with_config`). -/
def ofConfig (peer : Peer) (config : Config) : Except Failure Client :=
  match config.validate with
  | .ok () => .ok (configured peer config)
  | .error e => .error (.ofCause .builder (.config e))

/-- A request for a target, with the settings of the client. -/
def request (c : Client) (method : Method) (uri : Text) : Except Failure Request := do
  let d ← Descriptor.parse c.config.version.toVersion method uri
  let d ← match c.config.userAgent with
    | some agent => d.setHeader (Octets.ofText FieldName.userAgent.text) (.octets (.ofString agent))
    | none => pure d
  return { descriptor := d
           redirects := c.config.redirectLimit
           readTimeout := c.executor.readTimeout }

/-- Sends a request. -/
def execute (c : Client) (q : Request) (patience : Duration) : Ending Response × Client :=
  let (ending, executor) := q.execute c.executor patience
  (ending, { c with executor })

instance : Inspect Client where
  inspect c := Inspect.record "HttpClient"
    [("executor", inspect c.executor), ("config", inspect c.config)]

end Client

end Courier
