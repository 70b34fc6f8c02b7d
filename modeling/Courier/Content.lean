import Courier.Failure
import Courier.Fields

/-!
# Request content

Content is a source of units, a rule that says after which units to flush, and a rule for the
trailers. Each of the three may be missing. A source gives the same items whenever it is opened, so
that content can be sent once for each hop.
-/

namespace Courier

/-! ## Sources -/

/-- One thing that an open source gives: a unit, nothing yet, or a fault. -/
inductive ContentItem
  | unit (octets : Octets)
  | pending
  | fault (fault : Fault)
deriving DecidableEq

/-- A source of units (`ContentSource`). -/
structure Source where
  items : List ContentItem

namespace Source

/-- The source of these units. -/
def ofUnits (units : List Octets) : Source :=
  ⟨units.map .unit⟩

/-- The source of one unit. -/
def once (content : Octets) : Source :=
  ofUnits [content]

/-- Changes each unit. -/
def map (f : Octets → Octets) (s : Source) : Source :=
  ⟨s.items.map fun
    | .unit u => .unit (f u)
    | item => item⟩

instance : Inspect Source := ⟨fun _ => Inspect.openRecord "ContentSource" []⟩

end Source

/-! ## Flushing -/

/-- Says after which units to flush (`FlushSelector`). -/
structure FlushRule where
  flushes : Octets → Bool

/-- Flushes after every unit. -/
def FlushRule.always : FlushRule := ⟨fun _ => true⟩

instance : Inspect FlushRule := ⟨fun _ => Inspect.openRecord "FlushSelector" []⟩

/-! ## Trailers -/

/-- A state of a fold that can be turned into trailers (`TrailingHeaders`). -/
class TrailingFields (σ : Type) where
  intoFields : σ → Fields

instance : TrailingFields Fields := ⟨id⟩
instance : TrailingFields GroupedFields := ⟨GroupedFields.toFields⟩

/-- A fold over the units that gives the trailers. Its state is not seen from outside, so that a fold
is what its trailers are after any more units. The rule for a request is the fold before the first
unit. -/
structure TrailerFold where
  after : List Octets → Fields

namespace TrailerFold

/-- The fold with a state of any type, and what a unit does to it. -/
def ofState {σ : Type} [TrailingFields σ] (state : σ) (change : σ → Octets → σ) : TrailerFold :=
  ⟨fun units => TrailingFields.intoFields (units.foldl change state)⟩

/-- The fold after one more unit. -/
def accept (fold : TrailerFold) (u : Octets) : TrailerFold :=
  ⟨fun units => fold.after (u :: units)⟩

/-- The trailers, if no more units come. -/
def finish (fold : TrailerFold) : Fields :=
  fold.after []

instance : Inspect TrailerFold := ⟨fun _ => Inspect.openRecord "TrailerFold" []⟩

end TrailerFold

/-! ## Content -/

/-- The content of a request (`ContentSpec`). -/
structure Content where
  source : Option Source := none
  flush : Option FlushRule := none
  trailers : Option TrailerFold := none

namespace Content

/-- No content. -/
def empty : Content := {}

instance : Inspect Content where
  inspect c := Inspect.record "ContentSpec"
    [("has_content", inspect c.source.isSome), ("has_flush_selector", inspect c.flush.isSome),
      ("has_trailers", inspect c.trailers.isSome)]

end Content

end Courier
