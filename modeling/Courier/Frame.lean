import Courier.Content
import Courier.Descriptor

/-!
# Frames

A request goes out as a sequence of frames: its head, one frame for each unit of content, and a
last frame, which holds the trailers where there is a rule for them. A sequence is asked for one
frame at a time and takes no more from the source than it needs. A fault of the source ends it
without a last frame.
-/

namespace Courier

/-! ## Frames -/

/-- One frame of a request. -/
inductive Frame
  | head (request : Descriptor)
  | content (octets : Octets) (flush : Bool)
  | trailer (fields : Fields)
  | terminal
deriving DecidableEq

/-- The kinds of frames. -/
inductive FrameKind
  | head
  | content
  | trailer
  | terminal
deriving DecidableEq, Repr

def FrameKind.toString : FrameKind → String
  | head => "head"
  | content => "content"
  | trailer => "trailer"
  | terminal => "terminal"

namespace Frame

def kind : Frame → FrameKind
  | head _ => .head
  | content _ _ => .content
  | trailer _ => .trailer
  | terminal => .terminal

/-- Whether all that was written so far has to go out after this frame (`is_flush_boundary`). -/
def isFlushBoundary : Frame → Bool
  | head _ => false
  | content _ flush => flush
  | trailer _ | terminal => true

/-- Whether the frame ends its sequence (`is_last`). -/
def isLast : Frame → Bool
  | head _ | content _ _ => false
  | trailer _ | terminal => true

end Frame

/-- A message of the peer. -/
inductive Inbound
  | head (head : ResponseHead)
  | body (octets : Octets)
  | trailers (fields : Fields)
  | finished
deriving DecidableEq

/-! ## Sequences -/

/-- What a sequence answers when it is asked for a frame. -/
inductive FramePoll
  | frame (frame : Frame)
  | failed (failure : Failure)
  | pending
deriving DecidableEq

/-- Where a frame sequence stands. -/
inductive FrameSequence
  | start (request : Descriptor) (content : Content)
  | body (items : List ContentItem) (flush : Option FlushRule) (trailers : Option TrailerFold)
  | done

namespace FrameSequence

/-- The frame of a unit. -/
def contentFrame (flush : Option FlushRule) (u : Octets) : Frame :=
  .content u ((flush.map (·.flushes u)).getD false)

/-- The last frame. -/
def lastFrame : Option TrailerFold → Frame
  | some fold => .trailer fold.finish
  | none => .terminal

/-- Asks for one frame (`poll_next`). A sequence that is done has none. -/
def poll : FrameSequence → Option FramePoll × FrameSequence
  | start request content =>
    (some (.frame (.head request)),
      body ((content.source.map (·.items)).getD []) content.flush content.trailers)
  | body (.unit u :: items) flush trailers =>
    (some (.frame (contentFrame flush u)), body items flush (trailers.map (·.accept u)))
  | body (.pending :: items) flush trailers => (some .pending, body items flush trailers)
  | body (.fault f :: _) _ _ => (some (.failed (.ofFault .write f)), done)
  | body [] _ trailers => (some (.frame (lastFrame trailers)), done)
  | done => (none, done)

/-- Whether the sequence has nothing more to give (`is_terminated`). -/
def isTerminated : FrameSequence → Bool
  | done => true
  | _ => false

/-- How many more answers a sequence gives at most. -/
def size : FrameSequence → Nat
  | start _ content => ((content.source.map (·.items)).getD []).length + 2
  | body items _ _ => items.length + 1
  | done => 0

theorem size_lt_of_poll {s next : FrameSequence} {p : FramePoll} (h : s.poll = (some p, next)) :
    next.size < s.size := by
  match s, h with
  | start _ _, h => cases h; simp [size]
  | body (.unit _ :: _) _ _, h => cases h; simp [size]
  | body (.pending :: _) _ _, h => cases h; simp [size]
  | body (.fault _ :: _) _ _, h => cases h; simp [size]
  | body [] _ _, h => cases h; simp [size]

/-- All answers of a sequence until it is done. -/
def polls (s : FrameSequence) : List FramePoll :=
  match _h : s.poll with
  | (some p, next) => p :: next.polls
  | (none, _) => []
termination_by s.size
decreasing_by exact size_lt_of_poll _h

/-- What a caller gets that waits: the answers other than `pending`. -/
def settled (s : FrameSequence) : List FramePoll :=
  s.polls.filter (· != .pending)

end FrameSequence

end Courier
