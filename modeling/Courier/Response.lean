import Courier.Peer

/-!
# Responses

A response is a head and the connection that the rest of the message is read from. The body is
read chunk by chunk, up to the end of the message, the end of the connection, or a failure, after
which there is nothing more. Trailers that were passed on the way are kept. Where the peer keeps
silent, a reader waits until it gives up.
-/

namespace Courier

/-- How something that is waited for ends. It is abandoned when the patience of the caller runs
out. -/
inductive Ending (α : Type)
  | done (value : α)
  | failed (failure : Failure)
  | abandoned

/-- A response. -/
structure Response where
  head : ResponseHead
  connection : Connection
  trailers : Option Fields := none
  finished : Bool := false

namespace Response

/-- The response after its body has ended. -/
def finish (r : Response) (c : Connection) : Response :=
  { r with connection := c, finished := true }

/-- Reads the next chunk; there is none once the body has ended (`next_chunk`). -/
def nextChunk (r : Response) : Ending (Option Octets) × Response :=
  if r.finished then (.done none, r)
  else match _h : r.connection.read with
    | (.message (.body chunk), c) => (.done (some chunk), { r with connection := c })
    | (.message (.trailers fields), c) =>
      nextChunk { r with connection := c, trailers := some fields }
    | (.message .finished, c) | (.ended, c) => (.done none, r.finish c)
    | (.silence, c) => (.abandoned, { r with connection := c })
    | (.message (.head _), c) =>
      (.failed (.ofCause .body (.unexpectedMessage "response head inside body")), r.finish c)
    | (.failed f, c) => (.failed (f.reclassify .body), r.finish c)
termination_by r.connection.messages.length
decreasing_by exact Connection.messages_lt_of_read _h

/-- A bound on the chunks and failures that are still to come. -/
def remaining (r : Response) : Nat :=
  if r.finished then 0 else r.connection.messages.length + 1

theorem remaining_lt_of_nextChunk {r s : Response} {answer : Ending (Option Octets)}
    (h : r.nextChunk = (answer, s)) (hc : answer ≠ .done none) (hw : answer ≠ .abandoned) :
    s.remaining < r.remaining := by
  fun_induction nextChunk r with
  | case1 r hr => cases h; exact absurd rfl hc
  | case2 r hr chunk c hread =>
    cases h
    simpa [remaining, hr] using Connection.messages_lt_of_read hread
  | case3 r hr fields c hread ih =>
    refine Nat.lt_trans (ih h) ?_
    simpa [remaining, hr] using Connection.messages_lt_of_read hread
  | case4 | case5 => cases h; exact absurd rfl hc
  | case6 => cases h; exact absurd rfl hw
  | case7 r hr | case8 r hr => cases h; simp [remaining, finish, hr]

/-- Reads the rest of the body behind what was read before. -/
def bytesAfter (before : Octets) (r : Response) : Ending Octets × Response :=
  match _h : r.nextChunk with
  | (.done (some chunk), s) => bytesAfter (before ++ chunk) s
  | (.done none, s) => (.done before, s)
  | (.failed f, s) => (.failed f, s)
  | (.abandoned, s) => (.abandoned, s)
termination_by r.remaining
decreasing_by exact remaining_lt_of_nextChunk _h (by simp) nofun

/-- Reads the rest of the body into one piece. -/
def bytes (r : Response) : Ending Octets × Response :=
  bytesAfter [] r

/-- The chunks and failures that the rest of the body gives (`into_body_stream`). -/
def stream (r : Response) : List (Except Failure Octets) :=
  match _h : r.nextChunk with
  | (.done (some chunk), s) => .ok chunk :: stream s
  | (.done none, _) | (.abandoned, _) => []
  | (.failed f, s) => .error f :: stream s
termination_by r.remaining
decreasing_by all_goals exact remaining_lt_of_nextChunk _h (by simp) nofun

/-- The location that the head names. -/
def location? (r : Response) : Option Text :=
  r.head.fields.text? FieldName.location.text

instance : Inspect Response where
  inspect r := Inspect.record "Response"
    [("status", inspect r.head.status), ("version", inspect r.head.version),
      ("headers", inspect r.head.fields), ("connection", inspect r.connection.id)]

end Response

end Courier
