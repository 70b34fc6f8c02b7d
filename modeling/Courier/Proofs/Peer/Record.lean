import Courier.Proofs.Frame
import Courier.Proofs.Peer

/-!
# What the last record tells

The record of an acquisition is the last one until the next acquisition, and what is done with the
connection changes that record alone. A control event adds itself. A write adds a prefix of what it
was given, and all of it just if the write succeeds.
-/

namespace Courier

/-! ## Exchanges -/

namespace Exchange

/-- An exchange that gives a connection. -/
structure GivesConnection (x : Exchange) : Prop where
  acquire : x.acquireFailure = none
  conduct : x.conduct ≠ .refuse

/-- An exchange that takes a control event. -/
structure TakesControl (x : Exchange) : Prop where
  control : x.controlFailure = none
  conduct : x.conduct ≠ .rejectControl

/-- An exchange that takes frames. -/
structure TakesFrames (x : Exchange) : Prop where
  write : x.writeFailure = none
  conduct : x.conduct ≠ .failWrite

end Exchange

/-! ## Records -/

/-- The record after a write of these frames, with the error that it then shows. -/
def Attempt.sawWrite (a : Attempt) (frames : List Frame) (error : Option String) : Attempt :=
  { a with
    frames := a.frames ++ frames
    timeline := a.timeline ++ frames.map fun f => .frame f.kind
    writeError := error }

theorem Attempt.sawWrite_nil (a : Attempt) : a.sawWrite [] a.writeError = a := by
  simp [sawWrite]

theorem Attempt.sawWrite_sawFrame {a : Attempt} {f : Frame} {frames : List Frame}
    {error : Option String} :
    (a.sawFrame f).sawWrite frames error = a.sawWrite (f :: frames) error := by
  simp [sawWrite, sawFrame]

namespace Peer

/-- The record of a connection is `a`, the last one. -/
structure Recording (p : Peer) (c : Connection) (before : List Attempt) (a : Attempt) : Prop where
  attempts : p.attempts = before ++ [a]
  place : c.attempt = before.length

namespace Recording

variable {p : Peer} {c : Connection} {before : List Attempt} {a : Attempt} {polls : List FramePoll}

theorem record (h : p.Recording c before a) (change : Attempt → Attempt) :
    (p.record c change).Recording c before (change a) := by
  refine ⟨?_, h.place⟩
  simp only [Peer.record, h.attempts, h.place, modify_length_append]

theorem of_attempts {q : Peer} (h : p.Recording c before a) (hq : q.attempts = p.attempts) :
    q.Recording c before a :=
  ⟨hq.trans h.attempts, h.place⟩

theorem close (h : p.Recording c before a) :
    (p.close c).2.Recording c before { a with closed := true } :=
  h.record _

end Recording

/-! ## Control events -/

variable {p : Peer} {c : Connection}

theorem fire_of_takesControl (h : c.exchange.TakesControl) (context : Context) :
    p.fire c context = (.ok (), p.record c (·.sawControl context)) := by
  unfold fire
  rw [h.control]
  split
  · contradiction
  · next hconduct => exact absurd hconduct h.conduct
  · rfl

theorem fire_of_not_takesControl (h : ¬ c.exchange.TakesControl) (context : Context) :
    ∃ f, p.fire c context = (.error f, p) := by
  unfold fire
  split
  · exact ⟨_, rfl⟩
  · exact ⟨_, rfl⟩
  · next hcontrol hconduct => exact absurd ⟨hcontrol, hconduct⟩ h

/-! ## Frames -/

/-- Answers of a sequence to a caller that waits, in which nothing comes after a last frame. -/
structure Settled (polls : List FramePoll) : Prop where
  waits : .pending ∉ polls
  ends : ∀ front f rest, polls = front ++ .frame f :: rest → f.isLast = true → rest = []

theorem Settled.tail {poll : FramePoll} {rest : List FramePoll} (h : Settled (poll :: rest)) :
    Settled rest := by
  refine ⟨fun hmem => h.waits (List.mem_cons_of_mem poll hmem), ?_⟩
  intro front f more hrest
  exact h.ends (poll :: front) f more (by rw [hrest, List.cons_append])

theorem settled_of_frames {frames : List Frame} {ending : FramePoll}
    (hframes : ∀ f ∈ frames, f.isLast = false) (hending : ending ≠ .pending) :
    Settled (frames.map .frame ++ [ending]) := by
  refine ⟨by simpa [eq_comm] using hending, ?_⟩
  intro front f rest h hlast
  rcases List.append_eq_append_iff.1 h with ⟨more, -, hmore⟩ | ⟨more, hfront, hmore⟩
  · cases more with
    | nil => simpa [eq_comm] using (List.cons.inj hmore).2
    | cons poll more => simp at hmore
  · cases more with
    | nil => exact (List.cons.inj hmore).2
    | cons poll more =>
      obtain ⟨rfl, -⟩ := List.cons.inj hmore
      have hmem : FramePoll.frame f ∈ frames.map .frame := by
        rw [hfront]
        exact List.mem_append_right front List.mem_cons_self
      rw [hframes f (by simpa using hmem)] at hlast
      cases hlast

theorem settled_start (request : Descriptor) (content : Content) :
    Settled (FrameSequence.start request content).settled := by
  rw [FrameSequence.settled_start]
  generalize hlast : FrameSequence.ending _ _ = last
  have hframes : (FramePoll.frame (.head request) ::
      (ContentItem.units content.items).map fun u => .frame (content.frameOf u)) =
      (.head request :: (ContentItem.units content.items).map content.frameOf).map .frame := by
    rw [List.map_cons, List.map_map]
    rfl
  rw [hframes]
  apply settled_of_frames
  · intro f hf
    rcases List.mem_cons.1 hf with rfl | hf
    · rfl
    · obtain ⟨u, -, rfl⟩ := List.mem_map.1 hf
      rfl
  · subst hlast
    unfold FrameSequence.ending
    split <;> simp

/-! ## Writes -/

variable {before : List Attempt} {a : Attempt} {polls : List FramePoll}

theorem Recording.sawWriteError (h : p.Recording c before a) (reason : String) :
    (p.record c (·.sawWriteError reason)).Recording c before (a.sawWrite [] (some reason)) := by
  simpa [Attempt.sawWrite, Attempt.sawWriteError] using h.record (·.sawWriteError reason)

/-- What is known of a write: the record holds the frames at the front of what was given, and all
of it just if the write succeeded. -/
def Recording.Wrote (q : Peer) (c : Connection) (before : List Attempt) (a : Attempt)
    (polls : List FramePoll) (succeeded : Prop) : Prop :=
  ∃ frames error, frames.map .frame <+: polls ∧
    q.Recording c before (a.sawWrite frames error) ∧
    (succeeded ↔ frames.map .frame = polls)

theorem Recording.wrote_nothing (error : Option String) (hpolls : polls ≠ [])
    (h : p.Recording c before (a.sawWrite [] error)) {succeeded : Prop} (hfailed : ¬ succeeded) :
    Wrote p c before a polls succeeded := by
  refine ⟨[], error, List.nil_prefix, h, ?_⟩
  simpa [hfailed, eq_comm] using hpolls

theorem Recording.wrote_writeFrames (h : p.Recording c before a) (hpolls : Settled polls) :
    Wrote (p.writeFrames c polls).2 c before a polls ((p.writeFrames c polls).1 = .done) := by
  fun_induction writeFrames p c polls generalizing a with
  | case1 p => exact ⟨[], a.writeError, List.nil_prefix, by rwa [a.sawWrite_nil], by simp⟩
  | case2 p rest => exact absurd List.mem_cons_self hpolls.waits
  | case3 p f rest hconduct => exact wrote_nothing _ (by simp) (h.sawWriteError _) (by simp)
  | case4 p f rest hconduct hlast =>
    obtain rfl := hpolls.ends [] f rest rfl hlast
    refine ⟨[f], a.writeError, List.prefix_rfl, ?_, by simp⟩
    have hq : (p.record c (·.sawFrame f)).Recording c before (a.sawFrame f) := h.record _
    rw [← (a.sawFrame f).sawWrite_nil, Attempt.sawWrite_sawFrame] at hq
    exact hq
  | case5 p f rest q hlast hconduct =>
    rename_i ih
    have hq : q.Recording c before (a.sawFrame f) := h.record _
    obtain ⟨frames, error, hfront, hrecord, hdone⟩ := ih hq hpolls.tail
    rw [Attempt.sawWrite_sawFrame] at hrecord
    refine ⟨f :: frames, error, ?_, hrecord, ?_⟩
    · simpa using hfront
    · simpa using hdone
  | case6 p e rest hconduct => exact wrote_nothing _ (by simp) (h.sawWriteError _) (by simp)
  | case7 p e rest hconduct => exact wrote_nothing _ (by simp) (h.sawWriteError _) (by simp)

theorem writeFrames_ne_suspended (hpolls : Settled polls) :
    (p.writeFrames c polls).1 ≠ .suspended := by
  fun_induction writeFrames p c polls with
  | case2 p rest => exact absurd List.mem_cons_self hpolls.waits
  | case5 p f rest q hlast hconduct ih => exact ih hpolls.tail
  | case1 | case3 | case4 | case6 | case7 => simp

theorem write_ne_suspended (hpolls : Settled polls) : (p.write c polls).1 ≠ .suspended := by
  unfold write
  split
  · simp
  · exact writeFrames_ne_suspended hpolls

theorem Recording.wrote_write (h : p.Recording c before a) (hpolls : Settled polls)
    (hne : polls ≠ []) :
    Wrote (p.write c polls).2 c before a polls ((p.write c polls).1 = .done) := by
  unfold write
  split
  · refine wrote_nothing a.writeError hne ?_ (by simp)
    rwa [a.sawWrite_nil]
  · exact h.wrote_writeFrames hpolls

end Peer

end Courier
