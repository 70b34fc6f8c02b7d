import Courier.Duration
import Courier.Form
import Courier.Json.Reader
import Courier.Uri
import Courier.Web.Host

/-!
# Failures

A failure says at which stage a request went wrong, and why. It is a stack of layers, the
outermost first: each layer names a stage and may name the target that was asked for. Below the
innermost layer there may be a cause that is not a failure itself. Wrapping puts a layer on top;
`reclassify` does so only if the stage differs, and neither ever loses a cause.
-/

namespace Courier

/-- A stage of a request (`Kind`). -/
inductive Stage
  | builder
  | connect
  | write
  | read
  | timeout
  | body
deriving DecidableEq, Repr

namespace Stage

/-- What is said of a failure at this stage. -/
def message : Stage → String
  | builder => "builder error"
  | connect => "error acquiring connection"
  | write => "error writing request"
  | read => "error reading response head"
  | timeout => "timed out awaiting response"
  | body => "response body error"

def toString : Stage → String
  | builder => "Builder"
  | connect => "Connect"
  | write => "Write"
  | read => "Read"
  | timeout => "Timeout"
  | body => "Body"

/-- The stages. -/
def all : List Stage := [builder, connect, write, read, timeout, body]

/-- The stage of a name. -/
def ofString? (s : String) : Option Stage :=
  all.find? (·.toString == s)

instance : Inspect Stage := ⟨toString⟩

end Stage

/-! ## Causes -/

/-- Why a client configuration is refused. -/
inductive ConfigError
  | timeout (reason : String)
  | parameter (reason : String)
deriving DecidableEq, Repr

/-- The wording of the reason. -/
def ConfigError.message : ConfigError → String
  | .timeout reason => "Invalid timeout value: " ++ reason
  | .parameter reason => "Invalid configuration parameter: " ++ reason

/-- What lies below the layers of a failure. -/
inductive Cause
  | text (message : String)
  | connectionClosed
  | unexpectedMessage (found : String)
  | timedOut (limit : Duration)
  | invalidCookie (reason : String)
  | fieldName
  | fieldValue
  | credential
  | uri (error : UriError)
  | address (error : Web.AddressError)
  | json (error : Json.ReadError)
  | jsonKey
  | form (error : Form.FormError)
  | config (error : ConfigError)
deriving DecidableEq, Repr

namespace Cause

/-- The wording of a fault in JSON text. -/
def jsonMessage : Json.ReadError → String
  | .malformed => "malformed JSON"
  | .unfinished => "unfinished JSON"
  | .unexpected => "unexpected JSON value"

/-- The wording of a cause. -/
def message : Cause → String
  | text t => t
  | connectionClosed => "connection closed before a response head was received"
  | unexpectedMessage found => "unexpected inbound message: " ++ found
  | timedOut limit => "no response head within " ++ inspect limit
  | invalidCookie reason => "invalid cookie: " ++ reason
  | fieldName => "invalid HTTP header name"
  | fieldValue | credential => "failed to parse header value"
  | uri e => e.message
  | address e => e.message
  | json e => jsonMessage e
  | jsonKey => "key must be a string"
  | form e => e.message
  | config e => e.message

instance : Inspect Cause where
  inspect
    | text t => inspect t
    | connectionClosed => "ConnectionClosed"
    | unexpectedMessage found => Inspect.tuple "UnexpectedMessage" [inspect found]
    | timedOut limit => Inspect.tuple "TimedOut" [inspect limit]
    | invalidCookie reason => Inspect.tuple "InvalidCookie" [inspect reason]
    | fieldName => Inspect.tuple "http::Error" ["InvalidHeaderName"]
    | fieldValue => Inspect.tuple "http::Error" ["InvalidHeaderValue"]
    | credential => "InvalidHeaderValue"
    | form e => Inspect.tuple "Custom" [inspect e.message]
    | jsonKey => "Error(\"key must be a string\", line: 0, column: 0)"
    | other => inspect other.message

end Cause

/-! ## Failures -/

/-- One layer of a failure. -/
structure Layer where
  stage : Stage
  uri : Option Uri := none
deriving DecidableEq, Repr

/-- What is said of a layer. -/
def Layer.message (l : Layer) : String :=
  l.stage.message ++ match l.uri with
    | some u => " for uri (" ++ u.toString ++ ")"
    | none => ""

/-- A failure: its outermost layer, the layers below it, and the cause below them all (`Error`). -/
structure Failure where
  outer : Layer
  inner : List Layer := []
  cause : Option Cause := none
deriving DecidableEq, Repr

/-- What a collaborator may report: a cause of its own, or a failure. -/
inductive Fault
  | cause (cause : Cause)
  | failure (failure : Failure)
deriving DecidableEq, Repr

namespace Failure

/-- The stage of a failure is that of its outermost layer. -/
def stage (f : Failure) : Stage := f.outer.stage

/-- The target that the outermost layer names. -/
def uri? (f : Failure) : Option Uri := f.outer.uri

/-- A failure without a cause. -/
def ofStage (s : Stage) : Failure :=
  { outer := ⟨s, none⟩ }

/-- A failure with a cause. -/
def ofCause (s : Stage) (c : Cause) : Failure :=
  { outer := ⟨s, none⟩, cause := some c }

/-- Puts a layer on top of a failure. -/
def wrap (s : Stage) (f : Failure) : Failure :=
  { outer := ⟨s, none⟩, inner := f.outer :: f.inner, cause := f.cause }

/-- A failure because of what a collaborator reported. -/
def ofFault (s : Stage) : Fault → Failure
  | .cause c => ofCause s c
  | .failure f => wrap s f

/-- Names the target in the outermost layer. -/
def withUri (f : Failure) (u : Uri) : Failure :=
  { f with outer := { f.outer with uri := some u } }

/-- Gives a failure this stage; one that has it already stays as it is. -/
def reclassify (f : Failure) (s : Stage) : Failure :=
  if f.stage = s then f else f.wrap s

/-- What is said of a failure. -/
def message (f : Failure) : String := f.outer.message

/-- Whether the failure is a timeout or was caused by one (`is_timeout`). -/
def isTimeout (f : Failure) : Bool :=
  f.stage == .timeout || match f.cause with
    | some (.timedOut _) => true
    | _ => false

/-- Whether the peer closed the connection before it sent a head (`is_connection_closed`). -/
def isConnectionClosed (f : Failure) : Bool :=
  f.cause == some .connectionClosed

/-- Inspection text of layers over a cause. -/
def inspectLayers : Layer → List Layer → Option Cause → String
  | top, below, cause =>
    let source := match below with
      | next :: rest => [("source", inspectLayers next rest cause)]
      | [] => (cause.map fun c => ("source", inspect c)).toList
    Inspect.record "reqflow::Error" <|
      [("kind", inspect top.stage)] ++ source
        ++ (top.uri.map fun u => ("uri", u.toString)).toList
termination_by structural _ below => below

instance : Inspect Failure := ⟨fun f => inspectLayers f.outer f.inner f.cause⟩

end Failure

/-- What is said of a fault. -/
def Fault.message : Fault → String
  | .cause c => c.message
  | .failure f => f.message

end Courier
