import Courier.Correlation
import Courier.Frame
import Courier.Metrics

/-!
# Peers

A peer plays a script: for each acquisition one exchange, which says how the connection behaves.
It keeps a record of every acquisition, to which the operations on that connection add what they
saw. Connections are values that their holder passes along; they share nothing but the peer.
-/

namespace Courier

/-! ## Scripts -/

/-- How the peer behaves on one connection. -/
inductive Conduct
  | respond (messages : List (Except Failure Inbound))
  | refuse
  | rejectControl
  | failWrite
  | silent

/-- One exchange: how the peer behaves, and the failures with which acquiring the connection,
its control channel and writing to it end whatever the peer does. -/
structure Exchange where
  conduct : Conduct
  acquireFailure : Option Failure := none
  controlFailure : Option Failure := none
  writeFailure : Option Failure := none

namespace Exchange

/-- A response of these messages. -/
def ofMessages (messages : List Inbound) : Exchange :=
  { conduct := .respond (messages.map .ok) }

/-- A response without a body. -/
def ofStatus (s : Status) : Exchange :=
  ofMessages [.head { status := s }, .finished]

/-- A response with a body. -/
def ofBody (s : Status) (body : Octets) : Exchange :=
  ofMessages [.head { status := s }, .body body, .finished]

/-- A redirect. A location that is no header value is left out. -/
def redirect (s : Status) (location : String) : Exchange :=
  let fields : Fields := match FieldValue.ofString? location with
    | some value => Fields.empty.append .location value
    | none => {}
  ofMessages [.head { status := s, fields }, .finished]

end Exchange

/-- The exchanges of a peer: some, one after the other, or always the same. -/
inductive Script
  | list (exchanges : List Exchange)
  | always (exchange : Exchange)

/-- The next exchange, if there is one, and what is left (`next_exchange`). -/
def Script.next : Script → Option Exchange × Script
  | list [] => (none, list [])
  | list (e :: rest) => (some e, list rest)
  | always e => (some e, always e)

/-! ## Records -/

/-- What a connection saw, without its content. -/
inductive Observed
  | control
  | frame (kind : FrameKind)
deriving DecidableEq, Repr

def Observed.toString : Observed → String
  | control => "control"
  | frame kind => kind.toString

/-- What one acquisition saw (`RecordedAttempt`). A refused one has no connection. -/
structure Attempt where
  target : Descriptor
  connection : Option Nat
  control : List Context := []
  frames : List Frame := []
  timeline : List Observed := []
  writeError : Option String := none
  closed : Bool := false
deriving DecidableEq

namespace Attempt

/-- The record after a control event. -/
def sawControl (a : Attempt) (c : Context) : Attempt :=
  { a with control := a.control ++ [c], timeline := a.timeline ++ [.control] }

/-- The record after a frame. -/
def sawFrame (a : Attempt) (f : Frame) : Attempt :=
  { a with frames := a.frames ++ [f], timeline := a.timeline ++ [.frame f.kind] }

/-- The record after a write that failed. -/
def sawWriteError (a : Attempt) (reason : String) : Attempt :=
  { a with writeError := some reason }

end Attempt

/-! ## Connections -/

/-- A connection: its number, the place of its record, what the peer does on it, the messages that
are still to be read, and the identity attached to it (`LoopbackConnection`). -/
structure Connection where
  id : Nat
  attempt : Nat
  exchange : Exchange
  messages : List (Except Failure Inbound)
  correlation : Option Context := none
  closed : Bool := false

/-- The messages of an exchange. -/
def Conduct.messages : Conduct → List (Except Failure Inbound)
  | respond messages => messages
  | _ => []

/-- What reading gives: a message, a failure, the end, or nothing ever. -/
inductive Reading
  | message (message : Inbound)
  | failed (failure : Failure)
  | ended
  | silence

/-- Reads the next message. -/
def Connection.read (c : Connection) : Reading × Connection :=
  match c.closed, c.exchange.conduct, c.messages with
  | true, _, _ => (.ended, c)
  | false, .silent, _ => (.silence, c)
  | false, _, [] => (.ended, c)
  | false, _, .ok m :: rest => (.message m, { c with messages := rest })
  | false, _, .error f :: rest => (.failed f, { c with messages := rest })

theorem Connection.messages_lt_of_read {c d : Connection} {m : Inbound}
    (h : c.read = (.message m, d)) : d.messages.length < c.messages.length := by
  unfold Connection.read at h
  split at h <;> cases h
  next hm => simp [hm]

/-- What a connection shows of itself: its number, whether writes on it are reported, and the
identity attached to it (`ConnectionMetadata`). -/
structure ConnectionStatus where
  id : Nat
  publishing : Bool := false
  correlation : Option Context := none

instance : Inspect ConnectionStatus where
  inspect s := Inspect.record "ConnectionMetadata"
    [("id", inspect s.id), ("publishing", inspect s.publishing),
      ("correlation", inspect s.correlation)]

/-! ## Peers -/

/-- A peer: what is left of its script, its records in the order of the acquisitions, the number of
connections it has given out, and where writes on them are reported (`LoopbackProvider`). -/
structure Peer where
  script : Script
  attempts : List Attempt := []
  connected : Nat := 0
  sink : Sink := none

namespace Peer

/-- Changes one record. -/
def record (p : Peer) (c : Connection) (change : Attempt → Attempt) : Peer :=
  { p with attempts := p.attempts.modify c.attempt change }

/-- Marks a connection as closed. -/
def close (p : Peer) (c : Connection) : Connection × Peer :=
  ({ c with closed := true }, p.record c fun a => { a with closed := true })

/-- The failure of a peer that does not go on. -/
def hangUp (s : Stage) : Failure :=
  .ofCause s .connectionClosed

/-- Gives out a connection for an exchange. If the exchange says that this fails, the connection is
closed again. -/
def connect (p : Peer) (target : Descriptor) (e : Exchange) : Except Failure Connection × Peer :=
  let c : Connection :=
    { id := p.connected + 1, attempt := p.attempts.length, exchange := e,
      messages := e.conduct.messages }
  let p := { p with
    connected := p.connected + 1
    attempts := p.attempts ++ [{ target, connection := some c.id }] }
  match e.acquireFailure with
  | some f => (.error f, (p.close c).2)
  | none => (.ok c, p)

/-- Acquires a connection for a target. -/
def acquire (p : Peer) (target : Descriptor) : Except Failure Connection × Peer :=
  let (e, script) := p.script.next
  let p := { p with script }
  let refused :=
    (.error (hangUp .connect), { p with attempts := p.attempts ++ [{ target, connection := none }] })
  match e with
  | none => refused
  | some e => match e.conduct with
    | .refuse => refused
    | _ => p.connect target e

/-- Sends a control event (`fire_event`). -/
def fire (p : Peer) (c : Connection) (context : Context) : Except Failure Unit × Peer :=
  match c.exchange.controlFailure, c.exchange.conduct with
  | some f, _ => (.error f, p)
  | none, .rejectControl => (.error (hangUp .write), p)
  | none, _ => (.ok (), p.record c (·.sawControl context))

/-- How writing ends. A write that is given nothing yet is suspended. -/
inductive Written
  | done
  | failed (failure : Failure)
  | suspended
deriving DecidableEq

/-- Writes frames up to the last one. -/
def writeFrames (p : Peer) (c : Connection) : List FramePoll → Written × Peer
  | [] => (.done, p)
  | .pending :: _ => (.suspended, p)
  | .frame f :: rest =>
    match c.exchange.conduct with
    | .failWrite => (.failed (hangUp .write), p.record c (·.sawWriteError "connection reset"))
    | _ =>
      let p := p.record c (·.sawFrame f)
      if f.isLast then (.done, p) else p.writeFrames c rest
  | .failed e :: _ =>
    match c.exchange.conduct with
    | .failWrite => (.failed (hangUp .write), p.record c (·.sawWriteError "connection reset"))
    | _ => (.failed e, p.record c (·.sawWriteError e.message))

/-- Writes to a connection. -/
def write (p : Peer) (c : Connection) (frames : List FramePoll) : Written × Peer :=
  match c.exchange.writeFailure with
  | some f => (.failed f, p)
  | none => p.writeFrames c frames

/-- Sends the identity of an attempt ahead of its frames, and keeps it with the connection. Every
failure is one of writing. -/
def attach (p : Peer) (c : Connection) (context : Context) : Except Failure Connection × Peer :=
  match p.fire c context with
  | (.ok (), p) => (.ok { c with correlation := some context }, p)
  | (.error f, p) => (.error (f.reclassify .write), p)

end Peer

end Courier
