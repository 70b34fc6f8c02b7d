import Courier.Frame

/-!
# What a frame sequence says

A frame sequence is a machine that is asked for one frame at a time. Asked until it is done, and
with the answers `pending` left out, it says what the content says as a whole: the head, a frame
for each unit before the first fault, and one ending. The ending is a last frame, which holds the
trailers folded over all units where there is a rule for them, or the fault as a failed write.
-/

namespace Courier

/-! ## Content as a whole -/

namespace ContentItem

def unit? : ContentItem → Option Octets
  | unit u => some u
  | pending | fault _ => none

def fault? : ContentItem → Option Fault
  | fault f => some f
  | pending | unit _ => none

/-- The units of these items before the first fault. -/
def units (items : List ContentItem) : List Octets :=
  (items.takeWhile (·.fault?.isNone)).filterMap unit?

/-- The first fault of these items. -/
def firstFault? (items : List ContentItem) : Option Fault :=
  items.findSome? fault?

variable {u : Octets} {f : Fault} {rest : List ContentItem}

@[simp] theorem units_nil : units [] = [] := rfl
@[simp] theorem units_unit : units (unit u :: rest) = u :: units rest := rfl
@[simp] theorem units_pending : units (pending :: rest) = units rest := rfl
@[simp] theorem units_fault : units (fault f :: rest) = [] := rfl

@[simp] theorem firstFault?_nil : firstFault? [] = none := rfl
@[simp] theorem firstFault?_unit : firstFault? (unit u :: rest) = firstFault? rest := rfl
@[simp] theorem firstFault?_pending : firstFault? (pending :: rest) = firstFault? rest := rfl
@[simp] theorem firstFault?_fault : firstFault? (fault f :: rest) = some f := rfl

end ContentItem

/-- A fold that took these units gives the trailers after them. -/
theorem TrailerFold.finish_foldl_accept (fold : TrailerFold) (units : List Octets) :
    (units.foldl accept fold).finish = fold.after units := by
  induction units generalizing fold with
  | nil => rfl
  | cons u rest ih => rw [List.foldl_cons, ih, accept]

namespace Content

/-- What the source gives whenever it is opened; nothing where there is no source. -/
def items (c : Content) : List ContentItem :=
  match c.source with
  | some source => source.items
  | none => []

theorem items_eq (c : Content) : c.items = (c.source.map (·.items)).getD [] := by
  unfold items
  cases c.source <;> rfl

/-- The frame of one unit. -/
def frameOf (c : Content) (u : Octets) : Frame :=
  .content u (match c.flush with
    | some rule => rule.flushes u
    | none => false)

/-- The frame after the last one of these units. -/
def lastFrame (c : Content) (units : List Octets) : Frame :=
  match c.trailers with
  | some fold => .trailer (fold.after units)
  | none => .terminal

end Content

/-- What a failure was made of: the layers below the outermost one, or else the cause. -/
def Failure.source? (f : Failure) : Option Fault :=
  match f.inner with
  | next :: rest => some (.failure { outer := next, inner := rest, cause := f.cause })
  | [] => f.cause.map .cause

theorem Failure.source?_ofFault (s : Stage) (fault : Fault) :
    (ofFault s fault).source? = some fault := by
  cases fault <;> rfl

theorem Failure.stage_ofFault (s : Stage) (fault : Fault) : (ofFault s fault).stage = s := by
  cases fault <;> rfl

/-! ## Polls -/

namespace FrameSequence

theorem polls_of_poll {s next : FrameSequence} {p : FramePoll} (h : s.poll = (some p, next)) :
    s.polls = p :: next.polls := by
  rw [polls]
  split
  · next hs =>
    cases hs.symm.trans h
    rfl
  · next hs => cases hs.symm.trans h

theorem polls_done : done.polls = [] := by
  rw [polls]
  rfl

theorem settled_of_poll {s : FrameSequence} (p : FramePoll) (next : FrameSequence)
    (h : s.poll = (some p, next)) (hp : p ≠ .pending) : s.settled = p :: next.settled := by
  unfold settled
  rw [polls_of_poll h, List.filter_cons_of_pos (by simpa using hp)]

theorem settled_of_poll_pending {s : FrameSequence} (next : FrameSequence)
    (h : s.poll = (some .pending, next)) : s.settled = next.settled := by
  unfold settled
  rw [polls_of_poll h, List.filter_cons_of_neg (by simp)]

theorem settled_done : done.settled = [] := by
  simp [settled, polls_done]

/-- How a sequence ends after all units: with a fault, or with a last frame. -/
def ending (fault : Option Fault) (last : Frame) : FramePoll :=
  match fault with
  | some f => .failed (.ofFault .write f)
  | none => .frame last

/-- The rest of a sequence whose trailers have been folded so far. -/
theorem settled_body (items : List ContentItem) (flush : Option FlushRule)
    (trailers : Option TrailerFold) :
    (body items flush trailers).settled =
      (ContentItem.units items).map (fun u => .frame (contentFrame flush u)) ++
        [ending (ContentItem.firstFault? items)
          (lastFrame (trailers.map fun t => (ContentItem.units items).foldl .accept t))] := by
  induction items generalizing trailers with
  | nil =>
    rw [settled_of_poll _ done rfl (by simp), settled_done]
    cases trailers <;> rfl
  | cons item rest ih =>
    cases item with
    | unit u =>
      rw [settled_of_poll _ (body rest flush (trailers.map (·.accept u))) rfl (by simp), ih]
      cases trailers <;> simp
    | pending =>
      rw [settled_of_poll_pending (body rest flush trailers) rfl, ih]
      simp
    | fault f =>
      rw [settled_of_poll _ done rfl (by simp), settled_done]
      simp [ending]

theorem settled_start (request : Descriptor) (content : Content) :
    (start request content).settled =
      .frame (.head request) ::
        (ContentItem.units content.items).map (fun u => .frame (content.frameOf u)) ++
          [ending (ContentItem.firstFault? content.items)
            (content.lastFrame (ContentItem.units content.items))] := by
  have hframe : contentFrame content.flush = content.frameOf := by
    funext u
    unfold contentFrame Content.frameOf
    cases content.flush <;> rfl
  have hlast : lastFrame (content.trailers.map fun t =>
      (ContentItem.units content.items).foldl .accept t) =
        content.lastFrame (ContentItem.units content.items) := by
    unfold lastFrame Content.lastFrame
    cases content.trailers with
    | none => rfl
    | some fold => simp [TrailerFold.finish_foldl_accept]
  rw [settled_of_poll (.frame (.head request)) _ rfl (by simp), ← content.items_eq, settled_body,
    hframe, hlast]
  rfl

/-- **A frame sequence says what its content says.** Asked to its end, it gives the head, one
frame for each unit before the first fault, in order, and one ending: a last frame if there is no
fault, and otherwise a failed write made of the fault. The trailers of a rule with a state, which
may be of any type, are those of its change folded over all units from the initial state on. -/
theorem settled_says_content (request : Descriptor) (content : Content) :
    ∃ ending, (start request content).settled =
        .frame (.head request) ::
          (ContentItem.units content.items).map (fun u => .frame (content.frameOf u)) ++ [ending] ∧
      (ContentItem.firstFault? content.items = none →
        ending = .frame (content.lastFrame (ContentItem.units content.items)) ∧
        ∀ (σ : Type) [TrailingFields σ] (start : σ) (change : σ → Octets → σ),
          content.trailers = some (.ofState start change) → ending = .frame (.trailer
            (TrailingFields.intoFields ((ContentItem.units content.items).foldl change start)))) ∧
      ∀ fault, ContentItem.firstFault? content.items = some fault →
        ∃ f, ending = .failed f ∧ f.stage = .write ∧ f.source? = some fault := by
  refine ⟨_, settled_start request content, ?_, ?_⟩
  · intro hfault
    rw [hfault]
    refine ⟨rfl, ?_⟩
    intro σ _ start change hrule
    rw [FrameSequence.ending, Content.lastFrame, hrule]
    rfl
  · intro fault hfault
    rw [hfault]
    exact ⟨_, rfl, Failure.stage_ofFault _ _, Failure.source?_ofFault _ _⟩

/-- Content whose source gives one unit, breaks, and would go on. -/
def brokenUpload : Content :=
  { source := some ⟨[.pending, .unit [97], .pending, .fault (.cause (.text "lost")), .unit [98]]⟩
    flush := some .always
    trailers := some (.ofState Fields.empty fun h _ => h) }

theorem settled_brokenUpload :
    (∃ f, (start {} brokenUpload).settled =
        [.frame (.head {}), .frame (.content [97] true), .failed f] ∧
      f.stage = .write ∧ f.source? = some (.cause (.text "lost"))) ∧
    (start {} { brokenUpload with source := none }).settled =
      [.frame (.head {}), .frame (.trailer {})] := by
  obtain ⟨_, hbroken, -, hfault⟩ := settled_says_content {} brokenUpload
  obtain ⟨f, rfl, hstage, hsource⟩ := hfault _ rfl
  obtain ⟨_, hempty, hlast, -⟩ := settled_says_content {} { brokenUpload with source := none }
  rw [(hlast rfl).1] at hempty
  exact ⟨⟨f, hbroken, hstage, hsource⟩, hempty⟩

end FrameSequence

end Courier
