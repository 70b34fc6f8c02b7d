import Courier.Redirect.Decision
import Courier.Response

/-!
# Executing requests

An attempt acquires a connection, attaches an identity to it, writes the frames and reads a head.
An execution makes attempts until a response is to be delivered: each redirect that is followed is
a new attempt on a new connection, after the one before has been closed. A failure of any stage
ends the execution, has the kind of that stage, and leaves no connection open.

Time passes only while a silent peer is waited for. The wait ends with the read timeout of the
executor or with the patience of the caller, whichever is shorter.
-/

namespace Courier

/-- An executor: the peer that it asks, the source of identities, the collector that takes the
reports in place of the one of the peer, the rules for redirects, and the longest wait for a head
(`RequestExecutor`). -/
structure Executor where
  peer : Peer
  correlator : Option Correlator := none
  sink : Sink := none
  rules : Redirect.Rules := {}
  readTimeout : Option Duration := none

namespace Executor

/-! ## Connections -/

/-- Acquires a connection. -/
def acquire (e : Executor) (request : Descriptor) : Except Failure Connection × Executor :=
  let (c, peer) := e.peer.acquire request
  (c.mapError fun f => (f.reclassify .connect).withUri request.uri, { e with peer })

/-- Closes a connection. -/
def close (e : Executor) (c : Connection) : Executor :=
  { e with peer := (e.peer.close c).2 }

/-- Asks the correlator, if there is one, for an identity and attaches it to a connection. -/
def attach (e : Executor) (c : Connection) (request : Descriptor) :
    Except Failure Connection × Executor :=
  match e.correlator with
  | none => (.ok c, e)
  | some correlator =>
    let (identity, correlator) := correlator.identify request
    let e := { e with correlator := some correlator }
    match identity with
    | .error f => (.error f, e)
    | .ok context =>
      let (c, peer) := e.peer.attach c context
      (c, { e with peer })

/-! ## Reports -/

/-- Where writes are reported. -/
def reports (e : Executor) : Sink :=
  e.sink <|> e.peer.sink

/-- What a connection shows of itself while the executor holds it. -/
def status (e : Executor) (c : Connection) : ConnectionStatus :=
  { id := c.id, publishing := e.reports.isPublishing, correlation := c.correlation }

/-- Reports to the collector of the executor, or to that of the peer if there is none. -/
def report (e : Executor) (change : Metrics → Metrics) : Executor :=
  match e.sink with
  | some m => { e with sink := some (change m) }
  | none => { e with peer := { e.peer with sink := e.peer.sink.map change } }

/-- Begins a write: whether it is reported, and the executor after the report. -/
def beginWrite (e : Executor) : Bool × Executor :=
  if e.reports.isPublishing then (true, e.report (·.onSubmitted)) else (false, e)

/-- Ends a write that was begun. -/
def endWrite (e : Executor) (reported succeeded : Bool) (elapsed : Duration) : Executor :=
  if !reported then e
  else if succeeded then e.report (·.onComplete elapsed)
  else e.report (·.onFailed elapsed)

/-! ## Stages -/

/-- Writes the frames of a request (`write_instrumented`). -/
def write (e : Executor) (c : Connection) (request : Descriptor) (content : Content) :
    Except Failure Unit × Executor :=
  let (reported, e) := e.beginWrite
  let (written, peer) := e.peer.write c (FrameSequence.start request content).settled
  let e := { e with peer }
  match written with
  | .failed f => (.error (f.reclassify .write), e.endWrite reported false .zero)
  | .done | .suspended => (.ok (), e.endWrite reported true .zero)

/-- Reads the head of a response (`read_head`). -/
def readHead (e : Executor) (patience : Duration) (c : Connection) : Ending Response :=
  match c.read with
  | (.message (.head head), connection) => .done { head, connection }
  | (.message _, _) => .failed (.ofCause .read (.unexpectedMessage "expected response head"))
  | (.failed f, _) => .failed (f.reclassify .read)
  | (.ended, _) => .failed (.ofCause .read .connectionClosed)
  | (.silence, _) => match e.readTimeout with
    | some limit =>
      if limit.nanos ≤ patience.nanos then .failed (.ofCause .timeout (.timedOut limit))
      else .abandoned
    | none => .abandoned

/-! ## Attempts -/

/-- Attaches an identity, writes the request and reads the head. -/
def converse (e : Executor) (patience : Duration) (c : Connection) (request : Descriptor)
    (content : Content) : Ending Response × Executor :=
  match e.attach c request with
  | (.error f, e) => (.failed f, e)
  | (.ok c, e) => match e.write c request content with
    | (.error f, e) => (.failed f, e)
    | (.ok (), e) => (e.readHead patience c, e)

/-- One attempt at a request. A connection from which no response came is closed. -/
def attempt (e : Executor) (patience : Duration) (request : Descriptor) (content : Content) :
    Ending Response × Executor :=
  match e.acquire request with
  | (.error f, e) => (.failed f, e)
  | (.ok c, e) => match e.converse patience c request content with
    | (.done r, e) => (.done r, e)
    | (ending, e) => (ending, e.close c)

/-! ## Executions -/

/-- Makes attempts until a response is delivered. -/
def execute (e : Executor) (patience : Duration) (request : Descriptor) (content : Content)
    (budget : Redirect.Budget) : Ending Response × Executor :=
  match e.attempt patience request content with
  | (.done response, e) =>
    match _h : e.rules.decide budget request response.head with
    | .deliver _ => (.done response, e)
    | .follow target next =>
      let hop := e.rules.hop request response.head.status target
      (e.close response.connection).execute patience hop.request
        (if hop.keepsContent then content else .empty) next
  | (ending, e) => (ending, e)
termination_by budget.hops
decreasing_by
  obtain ⟨hb, rfl⟩ := Redirect.Rules.canFollow_of_decide_eq_follow _h
  exact Redirect.Budget.hops_afterHop_lt hb

instance : Inspect Executor where
  inspect e := Inspect.openRecord "RequestExecutor"
    [("correlator", inspect e.correlator.isSome), ("events", inspect e.sink.isSome),
      ("coordinator", inspect e.rules), ("read_timeout", inspect e.readTimeout)]

end Executor

end Courier
