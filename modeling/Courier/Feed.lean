import Courier.Frame

/-!
# Frame sequences over a feed

A source is a list of items, all of them there from the start. Content may also come while it is
sent: then each poll of a feed gives one thing, and a frame sequence polls its feed once for an
answer that needs a unit, and not at all for any other.
-/

namespace Courier

/-- What each poll of an open source gives, one after the other; `none` is the end. What comes
behind the end or behind a fault is left open. -/
abbrev Feed := Nat → Option ContentItem

/-- The feed of these items. -/
def Feed.ofItems (items : List ContentItem) : Feed := fun n => items[n]?

/-- A frame sequence that takes its units from a feed, if there is one, and how often it has polled
it. The sequence itself holds no items. -/
structure FedSequence where
  sequence : FrameSequence
  feed : Option Feed
  polled : Nat := 0

namespace FedSequence

/-- A sequence that nothing has been asked of. -/
def start (request : Descriptor) (feed : Option Feed) (flush : Option FlushRule)
    (trailers : Option TrailerFold) : FedSequence :=
  { sequence := .start request { flush, trailers }, feed }

/-- The sequence of a request over its content, opened anew. -/
def build (request : Descriptor) (content : Content) : FedSequence :=
  start request (content.source.map fun source => .ofItems source.items) content.flush
    content.trailers

/-- Asks for one frame (`poll_next`). A sequence that is at its content polls the feed, and answers
as one does that has just this item. -/
def poll (s : FedSequence) : Option FramePoll × FedSequence :=
  match s.sequence, s.feed with
  | .body [] flush trailers, some feed =>
    let (answer, sequence) := (FrameSequence.body (feed s.polled).toList flush trailers).poll
    (answer, { s with sequence, polled := s.polled + 1 })
  | sequence, _ =>
    let (answer, sequence) := sequence.poll
    (answer, { s with sequence })

/-- Whether the sequence has nothing more to give (`is_terminated`). -/
def isTerminated (s : FedSequence) : Bool :=
  s.sequence.isTerminated

end FedSequence

end Courier
