import Courier.Proofs.Executor.Run
import Courier.Proofs.Executor.Transcript
import Courier.Response

/-!
# Ways to read a body

What follows the head of a response is a list of messages and of failures to read one. The body is
the part of it before the first message that ends it: the end, another head or a failure, or that
the peer has closed and there is no more. It can be read chunk by chunk, as a stream or into one
piece. All three say the same of that part, whichever of them is used first and how often, and
nothing behind it is ever read.
-/

namespace Courier

/-! ## Bodies -/

namespace Body

/-- Whether a body goes on behind a message. -/
def goesOn : Except Failure Inbound → Bool
  | .ok (.body _) | .ok (.trailers _) => true
  | .ok (.head _) | .ok .finished | .error _ => false

/-- The messages that belong to a body. -/
def visible (messages : List (Except Failure Inbound)) : List (Except Failure Inbound) :=
  messages.takeWhile goesOn

/-- What a body stops at; nothing where the peer has closed. -/
def stop? (messages : List (Except Failure Inbound)) : Option (Except Failure Inbound) :=
  (messages.dropWhile goesOn).head?

def chunk? : Except Failure Inbound → Option Octets
  | .ok (.body chunk) => some chunk
  | _ => none

def trailers? : Except Failure Inbound → Option Fields
  | .ok (.trailers fields) => some fields
  | _ => none

/-- The failure that stopping at a message is: another head and a failure to read are one. -/
def stopFailure? : Except Failure Inbound → Option Failure
  | .ok (.head _) => some (.ofCause .body (.unexpectedMessage "response head inside body"))
  | .error f => some (f.reclassify .body)
  | .ok (.body _) | .ok (.trailers _) | .ok .finished => none

/-- The chunks of a body, in order. -/
def chunks (messages : List (Except Failure Inbound)) : List Octets :=
  (visible messages).filterMap chunk?

/-- The last trailers of a body. -/
def lastTrailers? (messages : List (Except Failure Inbound)) : Option Fields :=
  ((visible messages).filterMap trailers?).getLast?

/-- The failure that a body ends with. -/
def failure? (messages : List (Except Failure Inbound)) : Option Failure :=
  (stop? messages).bind stopFailure?

/-- What comes of reading a body into one piece, behind what was read before. -/
def gathered (before : Octets) (messages : List (Except Failure Inbound)) : Ending Octets :=
  match failure? messages with
  | some f => .failed f
  | none => .done (before ++ (chunks messages).flatten)

variable {chunk : Octets} {fields : Fields} {head : ResponseHead} {f : Failure}
  {rest : List (Except Failure Inbound)}

@[simp] theorem chunks_nil : chunks [] = [] := rfl
@[simp] theorem chunks_body : chunks (.ok (.body chunk) :: rest) = chunk :: chunks rest := rfl
@[simp] theorem chunks_trailers : chunks (.ok (.trailers fields) :: rest) = chunks rest := rfl
@[simp] theorem chunks_head : chunks (.ok (.head head) :: rest) = [] := rfl
@[simp] theorem chunks_finished : chunks (.ok .finished :: rest) = [] := rfl
@[simp] theorem chunks_error : chunks (.error f :: rest) = [] := rfl

@[simp] theorem failure?_nil : failure? [] = none := rfl
@[simp] theorem failure?_body : failure? (.ok (.body chunk) :: rest) = failure? rest := rfl
@[simp] theorem failure?_trailers : failure? (.ok (.trailers fields) :: rest) = failure? rest := rfl
@[simp] theorem failure?_head : failure? (.ok (.head head) :: rest) =
    some (.ofCause .body (.unexpectedMessage "response head inside body")) := rfl
@[simp] theorem failure?_error : failure? (.error f :: rest) = some (f.reclassify .body) := rfl
@[simp] theorem failure?_finished : failure? (.ok .finished :: rest) = none := rfl

@[simp] theorem lastTrailers?_nil : lastTrailers? [] = none := rfl
@[simp] theorem lastTrailers?_body :
    lastTrailers? (.ok (.body chunk) :: rest) = lastTrailers? rest := rfl
@[simp] theorem lastTrailers?_head : lastTrailers? (.ok (.head head) :: rest) = none := rfl
@[simp] theorem lastTrailers?_finished : lastTrailers? (.ok .finished :: rest) = none := rfl
@[simp] theorem lastTrailers?_error : lastTrailers? (.error f :: rest) = none := rfl

theorem lastTrailers?_trailers :
    lastTrailers? (.ok (.trailers fields) :: rest) = (lastTrailers? rest).or (some fields) := by
  change (fields :: (visible rest).filterMap trailers?).getLast? = _
  rw [List.getLast?_cons, lastTrailers?]
  cases ((visible rest).filterMap trailers?).getLast? <;> rfl

theorem stage_of_failure? {messages : List (Except Failure Inbound)}
    (h : failure? messages = some f) : f.stage = .body := by
  obtain ⟨message, -, hfailure⟩ := Option.bind_eq_some_iff.1 h
  unfold stopFailure? at hfailure
  split at hfailure
  · cases hfailure
    rfl
  · next g =>
    cases hfailure
    exact g.stage_reclassify .body
  · cases hfailure
  · cases hfailure
  · cases hfailure

theorem failure?_ne_none_iff {messages : List (Except Failure Inbound)} :
    failure? messages ≠ none ↔ (∃ head, stop? messages = some (.ok (.head head))) ∨
      ∃ f, stop? messages = some (.error f) := by
  unfold failure?
  cases stop? messages with
  | none => simp
  | some message =>
    cases message with
    | error f => simp [stopFailure?]
    | ok m => cases m <;> simp [stopFailure?]

end Body

/-! ## Readings -/

namespace Connection

/-- What a connection has yet to give. -/
def incoming (c : Connection) : List (Except Failure Inbound) :=
  if c.closed then [] else c.messages

/-- All that reading does where the peer does not keep silent. -/
inductive Reads (c d : Connection) : Reading → Prop
  | message {m : Inbound} (incoming : c.incoming = .ok m :: d.incoming) : Reads c d (.message m)
  | failed {f : Failure} (incoming : c.incoming = .error f :: d.incoming) : Reads c d (.failed f)
  | ended (incoming : c.incoming = []) : Reads c d .ended

theorem reads_of_read {c d : Connection} {reading : Reading}
    (hspeaks : c.exchange.conduct ≠ .silent) (h : c.read = (reading, d)) : Reads c d reading := by
  unfold read at h
  split at h
  · next hclosed =>
    cases h
    exact .ended (if_pos hclosed)
  · next hsilent => exact absurd hsilent hspeaks
  · next hmessages _ =>
    cases h
    exact .ended (by simp [incoming, hmessages])
  · next hclosed hmessages _ =>
    cases h
    exact .message (by simp [incoming, hclosed, hmessages])
  · next hclosed hmessages _ =>
    cases h
    exact .failed (by simp [incoming, hclosed, hmessages])

theorem open_of_read {c d : Connection} {m : Inbound} (h : c.read = (.message m, d)) :
    c.closed = false ∧ c.exchange.conduct ≠ .silent := by
  unfold read at h
  split at h <;> cases h
  next hclosed hspeaks _ => exact ⟨hclosed, hspeaks⟩

end Connection

namespace Response

open Body

variable {r s : Response} {messages : List (Except Failure Inbound)}
  {answer : Ending (Option Octets)}

/-! ## The next chunk -/

/-- What a response has yet to read. -/
def unread (r : Response) : List (Except Failure Inbound) :=
  if r.finished then [] else r.connection.incoming

/-- A response whose peer does not keep silent. -/
def Speaks (r : Response) : Prop :=
  r.connection.exchange.conduct ≠ .silent

/-- The trailers that a response will have when its body has been read. -/
def finalTrailers (r : Response) : Option Fields :=
  (lastTrailers? r.unread).or r.trailers

theorem unread_of_unfinished (h : ¬ r.finished = true) : r.unread = r.connection.incoming :=
  if_neg h

/-- A response that is finished reads no more, whatever its connection would give. -/
theorem nextChunk_of_finished (h : r.finished = true) : r.nextChunk = (.done none, r) := by
  rw [nextChunk, if_pos h]

theorem connection_nextChunk (r : Response) :
    ∃ messages, r.nextChunk.2.connection = { r.connection with messages } := by
  fun_induction nextChunk r with
  | case1 r => exact ⟨_, rfl⟩
  | case3 r hr fields c hread ih =>
    obtain ⟨messages, rfl⟩ := Connection.eq_of_read hread
    obtain ⟨messages', hconnection⟩ := ih
    exact ⟨messages', hconnection⟩
  | case2 r hr chunk c hread => exact Connection.eq_of_read hread
  | case4 r hr c hread => exact Connection.eq_of_read hread
  | case5 r hr c hread => exact Connection.eq_of_read hread
  | case6 r hr c hread => exact Connection.eq_of_read hread
  | case7 r hr head c hread => exact Connection.eq_of_read hread
  | case8 r hr f c hread => exact Connection.eq_of_read hread

/-- All that asking for the next chunk does: it takes the chunk that is next, or it ends the body,
with a failure or without. -/
inductive Took (r s : Response) : Ending (Option Octets) → Prop
  | chunk {chunk : Octets} (next : chunks r.unread = chunk :: chunks s.unread)
    (failure : failure? s.unread = failure? r.unread) : Took r s (.done (some chunk))
  | failed {f : Failure} (chunks : chunks r.unread = []) (failure : failure? r.unread = some f)
    (finished : s.finished = true) : Took r s (.failed f)
  | ended (chunks : chunks r.unread = []) (failure : failure? r.unread = none)
    (finished : s.finished = true) : Took r s (.done none)

/-- Trailers on the way to a chunk change nothing of what was taken. -/
theorem Took.of_trailers (fields : Fields) {r' : Response}
    (hunread : r.unread = .ok (.trailers fields) :: r'.unread) (h : Took r' s answer) :
    Took r s answer := by
  have hchunks : chunks r.unread = chunks r'.unread := by rw [hunread, chunks_trailers]
  have hfailure : failure? r.unread = failure? r'.unread := by rw [hunread, failure?_trailers]
  cases h with
  | chunk hnext hrest => exact .chunk (hchunks.trans hnext) (hrest.trans hfailure.symm)
  | failed hnone hf hfinished =>
    exact .failed (hchunks.trans hnone) (hfailure.trans hf) hfinished
  | ended hnone hf hfinished => exact .ended (hchunks.trans hnone) (hfailure.trans hf) hfinished

theorem unread_of_message {m : Inbound} {c : Connection} (hr : ¬ r.finished = true)
    (hspeaks : r.Speaks) (h : r.connection.read = (.message m, c)) :
    r.unread = .ok m :: ({ r with connection := c } : Response).unread := by
  rcases Connection.reads_of_read hspeaks h with ⟨hincoming⟩
  rw [unread_of_unfinished hr, hincoming, unread_of_unfinished (r := { r with connection := c }) hr]

theorem took_nextChunk (hspeaks : r.Speaks) : Took r r.nextChunk.2 r.nextChunk.1 := by
  fun_induction nextChunk r with
  | case1 r hr =>
    have hunread : r.unread = [] := if_pos hr
    exact .ended (by rw [hunread, chunks_nil]) (by rw [hunread, failure?_nil]) hr
  | case2 r hr chunk c hread =>
    have hunread := unread_of_message hr hspeaks hread
    exact .chunk (by rw [hunread, chunks_body]) (by rw [hunread, failure?_body])
  | case3 r hr fields c hread ih =>
    have hunread := unread_of_message hr hspeaks hread
    obtain ⟨messages, rfl⟩ := Connection.eq_of_read hread
    refine Took.of_trailers fields ?_ (ih hspeaks)
    exact hunread
  | case4 r hr c hread =>
    have hunread := unread_of_message hr hspeaks hread
    exact .ended (by rw [hunread, chunks_finished]) (by rw [hunread, failure?_finished]) rfl
  | case5 r hr c hread =>
    rcases Connection.reads_of_read hspeaks hread with _ | _ | hincoming
    rw [← unread_of_unfinished hr] at hincoming
    exact .ended (by rw [hincoming, chunks_nil]) (by rw [hincoming, failure?_nil]) rfl
  | case6 r hr c hread => cases Connection.reads_of_read hspeaks hread
  | case7 r hr head c hread =>
    have hunread := unread_of_message hr hspeaks hread
    exact .failed (by rw [hunread, chunks_head]) (by rw [hunread, failure?_head]) rfl
  | case8 r hr f c hread =>
    rcases Connection.reads_of_read hspeaks hread with _ | hincoming
    rw [← unread_of_unfinished hr] at hincoming
    exact .failed (by rw [hincoming, chunks_error]) (by rw [hincoming, failure?_error]) rfl

theorem speaks_nextChunk (hspeaks : r.Speaks) : r.nextChunk.2.Speaks := by
  obtain ⟨messages, hconnection⟩ := r.connection_nextChunk
  unfold Speaks
  rw [hconnection]
  exact hspeaks

theorem finalTrailers_nextChunk (hspeaks : r.Speaks) :
    r.nextChunk.2.finalTrailers = r.finalTrailers := by
  fun_induction nextChunk r with
  | case1 r hr => rfl
  | case2 r hr chunk c hread =>
    rw [finalTrailers, finalTrailers, unread_of_message hr hspeaks hread, lastTrailers?_body]
  | case3 r hr fields c hread ih =>
    have hunread := unread_of_message hr hspeaks hread
    obtain ⟨messages, rfl⟩ := Connection.eq_of_read hread
    rw [ih hspeaks, finalTrailers, finalTrailers, hunread, lastTrailers?_trailers, Option.or_assoc]
    rfl
  | case4 r hr c hread =>
    rw [finalTrailers, finalTrailers, unread_of_message hr hspeaks hread, lastTrailers?_finished]
    rfl
  | case5 r hr c hread =>
    rcases Connection.reads_of_read hspeaks hread with _ | _ | hincoming
    rw [finalTrailers, finalTrailers, unread_of_unfinished hr, hincoming]
    rfl
  | case6 r hr c hread => cases Connection.reads_of_read hspeaks hread
  | case7 r hr head c hread =>
    rw [finalTrailers, finalTrailers, unread_of_message hr hspeaks hread, lastTrailers?_head]
    rfl
  | case8 r hr f c hread =>
    rcases Connection.reads_of_read hspeaks hread with _ | hincoming
    rw [finalTrailers, finalTrailers, unread_of_unfinished hr, hincoming, lastTrailers?_error]
    rfl

theorem finalTrailers_of_finished (h : r.finished = true) : r.finalTrailers = r.trailers := by
  have hunread : r.unread = [] := if_pos h
  rw [finalTrailers, hunread, lastTrailers?_nil, Option.none_or]

/-- What is known after the next chunk was asked for. -/
structure Advances (r s : Response) (answer : Ending (Option Octets)) : Prop where
  took : Took r s answer
  speaks : s.Speaks
  trailers : s.finalTrailers = r.finalTrailers

theorem advances_nextChunk (hspeaks : r.Speaks) (h : r.nextChunk = (answer, s)) :
    Advances r s answer := by
  have htook := took_nextChunk hspeaks
  have hs := speaks_nextChunk hspeaks
  have hfinal := finalTrailers_nextChunk hspeaks
  rw [h] at htook hs hfinal
  exact ⟨htook, hs, hfinal⟩

/-! ## The whole body -/

theorem unread_of_finished (h : r.finished = true) : r.unread = [] := if_pos h

theorem stream_eq (hspeaks : r.Speaks) :
    r.stream = (chunks r.unread).map .ok ++ (failure? r.unread).toList.map .error := by
  fun_induction stream r with
  | case1 r chunk s hnext ih =>
    obtain ⟨htook, hs, -⟩ := advances_nextChunk hspeaks hnext
    cases htook with
    | chunk hchunks hfailure => rw [ih hs, hchunks, hfailure, List.map_cons, List.cons_append]
  | case2 r s hnext =>
    obtain ⟨htook, -, -⟩ := advances_nextChunk hspeaks hnext
    cases htook with
    | ended hchunks hfailure =>
      rw [hchunks, hfailure]
      rfl
  | case3 r s hnext =>
    obtain ⟨htook, -, -⟩ := advances_nextChunk hspeaks hnext
    cases htook
  | case4 r f s hnext ih =>
    obtain ⟨htook, hs, -⟩ := advances_nextChunk hspeaks hnext
    cases htook with
    | failed hchunks hfailure hfinished =>
      rw [ih hs, unread_of_finished hfinished, hchunks, hfailure]
      rfl

theorem bytesAfter_eq (before : Octets) (hspeaks : r.Speaks) :
    (bytesAfter before r).1 = gathered before r.unread ∧
      (bytesAfter before r).2.trailers = r.finalTrailers := by
  fun_induction bytesAfter before r with
  | case1 before r chunk s hnext ih =>
    obtain ⟨htook, hs, hfinal⟩ := advances_nextChunk hspeaks hnext
    obtain ⟨hbytes, htrailers⟩ := ih hs
    refine ⟨?_, htrailers.trans hfinal⟩
    cases htook with
    | chunk hchunks hfailure =>
      rw [hbytes, gathered, gathered, hchunks, hfailure, List.flatten_cons, List.append_assoc]
  | case2 before r s hnext =>
    obtain ⟨htook, -, hfinal⟩ := advances_nextChunk hspeaks hnext
    cases htook with
    | ended hchunks hfailure hfinished =>
      refine ⟨?_, (finalTrailers_of_finished hfinished).symm.trans hfinal⟩
      rw [gathered, hchunks, hfailure, List.flatten_nil, List.append_nil]
  | case3 before r f s hnext =>
    obtain ⟨htook, -, hfinal⟩ := advances_nextChunk hspeaks hnext
    cases htook with
    | failed hchunks hfailure hfinished =>
      refine ⟨?_, (finalTrailers_of_finished hfinished).symm.trans hfinal⟩
      rw [gathered, hfailure]
  | case4 before r s hnext =>
    obtain ⟨htook, -, -⟩ := advances_nextChunk hspeaks hnext
    cases htook

/-! ## Parts of a body -/

/-- The response after the next chunk was asked for `k` times. -/
def afterCalls (r : Response) : Nat → Response
  | 0 => r
  | k + 1 => (r.afterCalls k).nextChunk.2

/-- A response of which these chunks have yet to be read. -/
structure Leaves (r s : Response) (left : List Octets) : Prop where
  chunks : chunks s.unread = left
  failure : failure? s.unread = failure? r.unread
  speaks : s.Speaks
  trailers : s.finalTrailers = r.finalTrailers

theorem leaves_afterCalls (hspeaks : r.Speaks) {k : Nat} (hk : k ≤ (chunks r.unread).length) :
    Leaves r (r.afterCalls k) ((chunks r.unread).drop k) := by
  induction k with
  | zero => exact ⟨rfl, rfl, hspeaks, rfl⟩
  | succ k ih =>
    obtain ⟨hchunks, hfailure, hs, htrailers⟩ := ih (Nat.le_of_succ_le hk)
    rw [List.drop_eq_getElem_cons hk] at hchunks
    obtain ⟨htook, hs', htrailers'⟩ := advances_nextChunk hs rfl
    -- there is a chunk left, so that the call takes it
    generalize hanswer : (r.afterCalls k).nextChunk.1 = answer at htook
    cases htook with
    | chunk hnext hrest =>
      rw [hchunks] at hnext
      exact ⟨(List.cons.inj hnext).2.symm, hrest.trans hfailure, hs', htrailers'.trans htrailers⟩
    | failed hnone => cases hchunks.symm.trans hnone
    | ended hnone => cases hchunks.symm.trans hnone

/-- The call that comes after all chunks were taken ends the body. -/
theorem ended_afterCalls (hspeaks : r.Speaks) {k : Nat} (hk : (chunks r.unread).length < k) :
    (r.afterCalls k).finished = true ∧ (r.afterCalls k).trailers = r.finalTrailers := by
  induction k with
  | zero => cases hk
  | succ k ih =>
    by_cases hend : k = (chunks r.unread).length
    · subst hend
      obtain ⟨hchunks, -, hs, htrailers⟩ := leaves_afterCalls hspeaks (Nat.le_refl _)
      rw [List.drop_length] at hchunks
      obtain ⟨htook, -, htrailers'⟩ := advances_nextChunk hs rfl
      have hfinished : (r.afterCalls ((chunks r.unread).length + 1)).finished = true := by
        rw [afterCalls]
        generalize (r.afterCalls _).nextChunk.1 = answer at htook
        cases htook with
        | chunk hnext => cases hchunks.symm.trans hnext
        | failed _ _ hfinished => exact hfinished
        | ended _ _ hfinished => exact hfinished
      refine ⟨hfinished, ?_⟩
      rw [← finalTrailers_of_finished hfinished]
      exact htrailers'.trans htrailers
    · have hfinished := ih (by omega)
      rw [afterCalls, nextChunk_of_finished hfinished.1]
      exact hfinished

section Leaves

variable {left : List Octets}

theorem Leaves.stream_eq (h : Leaves r s left) :
    s.stream = left.map .ok ++ (failure? r.unread).toList.map .error := by
  rw [Response.stream_eq h.speaks, h.chunks, h.failure]

theorem Leaves.bytes_eq (h : Leaves r s left) :
    s.bytes.1 = (match failure? r.unread with
      | some f => .failed f
      | none => .done left.flatten) ∧ s.bytes.2.trailers = r.finalTrailers := by
  obtain ⟨hbytes, htrailers⟩ := bytesAfter_eq [] h.speaks
  rw [gathered, h.chunks, h.failure, List.nil_append] at hbytes
  exact ⟨hbytes, htrailers.trans h.trailers⟩

theorem Leaves.nextChunk_of_cons {chunk : Octets} (h : Leaves r s (chunk :: left)) :
    s.nextChunk.1 = .done (some chunk) := by
  obtain ⟨htook, -, -⟩ := advances_nextChunk h.speaks rfl
  generalize s.nextChunk.1 = answer at htook ⊢
  cases htook with
  | chunk hnext => rw [(List.cons.inj (h.chunks.symm.trans hnext)).1]
  | failed hnone => cases h.chunks.symm.trans hnone
  | ended hnone => cases h.chunks.symm.trans hnone

theorem Leaves.nextChunk_of_nil (h : Leaves r s []) :
    s.nextChunk.1 = match failure? r.unread with
      | some f => .failed f
      | none => .done none := by
  obtain ⟨htook, -, -⟩ := advances_nextChunk h.speaks rfl
  rw [← h.failure]
  generalize s.nextChunk.1 = answer at htook ⊢
  cases htook with
  | chunk hnext => cases h.chunks.symm.trans hnext
  | failed _ hfailure => rw [hfailure]
  | ended _ hfailure => rw [hfailure]

end Leaves

theorem stream_of_finished (h : r.finished = true) : r.stream = [] := by
  rw [stream]
  split
  · next hnext => cases (nextChunk_of_finished h).symm.trans hnext
  · rfl
  · rfl
  · next hnext => cases (nextChunk_of_finished h).symm.trans hnext

theorem bytes_of_finished (h : r.finished = true) : r.bytes = (.done [], r) := by
  rw [bytes, bytesAfter]
  split
  · next hnext => cases (nextChunk_of_finished h).symm.trans hnext
  · next hnext =>
    cases (nextChunk_of_finished h).symm.trans hnext
    rfl
  · next hnext => cases (nextChunk_of_finished h).symm.trans hnext
  · next hnext => cases (nextChunk_of_finished h).symm.trans hnext

/-- Whatever was taken before, the stream is that of the rest. -/
theorem stream_afterCalls (hspeaks : r.Speaks) (k : Nat) :
    (r.afterCalls k).stream = r.stream.drop k := by
  have hstream := Response.stream_eq hspeaks
  by_cases hk : k ≤ (chunks r.unread).length
  · rw [(leaves_afterCalls hspeaks hk).stream_eq, hstream, List.map_drop,
      List.drop_append_of_le_length (by simpa using hk)]
  · have hshort : r.stream.length ≤ k := by
      have hone : (failure? r.unread).toList.length ≤ 1 := by
        cases failure? r.unread <;> simp
      rw [hstream, List.length_append, List.length_map, List.length_map]
      omega
    obtain ⟨hfinished, -⟩ := ended_afterCalls hspeaks (Nat.lt_of_not_le hk)
    rw [stream_of_finished hfinished, List.drop_eq_nil_of_le hshort]

theorem trailers_bytes_afterCalls (hspeaks : r.Speaks) (k : Nat) :
    (r.afterCalls k).bytes.2.trailers = r.finalTrailers := by
  by_cases hk : k ≤ (chunks r.unread).length
  · exact (leaves_afterCalls hspeaks hk).bytes_eq.2
  · obtain ⟨hfinished, htrailers⟩ := ended_afterCalls hspeaks (Nat.lt_of_not_le hk)
    rw [bytes_of_finished hfinished]
    exact htrailers

/-! ## Responses that were just delivered -/

/-- A response of which only the head has been read, and these messages are to follow. -/
structure Awaits (r : Response) (messages : List (Except Failure Inbound)) : Prop where
  unfinished : r.finished = false
  speaks : r.Speaks
  incoming : r.connection.incoming = messages
  trailers : r.trailers = none

namespace Awaits

theorem unread_eq (h : r.Awaits messages) : r.unread = messages := by
  rw [unread_of_unfinished (by rw [h.unfinished]; exact Bool.false_ne_true), h.incoming]

theorem finalTrailers_eq (h : r.Awaits messages) : r.finalTrailers = lastTrailers? messages := by
  rw [finalTrailers, h.unread_eq, h.trailers, Option.or_none]

end Awaits

theorem awaits_of_readHead {e : Executor} {patience : Duration} {c : Connection}
    (h : e.readHead patience c = .done r) : r.Awaits r.connection.messages := by
  unfold Executor.readHead at h
  split at h
  · next head d hread =>
    cases h
    obtain ⟨messages, rfl⟩ := Connection.eq_of_read hread
    obtain ⟨hopen, hspeaks⟩ := Connection.open_of_read hread
    exact ⟨rfl, hspeaks, by simp [Connection.incoming, hopen], rfl⟩
  · cases h
  · cases h
  · cases h
  · split at h
    · split at h <;> cases h
    · cases h

/-- A response that an execution delivers awaits all that its peer sends behind the head. -/
theorem awaits_of_execute {e e' : Executor} {patience : Duration} {request : Descriptor}
    {content : Content} {budget : Redirect.Budget}
    (h : e.execute patience request content budget = (.done r, e')) :
    ∃ messages, r.connection.exchange.conduct.messages = .ok (.head r.head) :: messages ∧
      r.Awaits messages := by
  obtain ⟨k, l, hk, hlast⟩ :=
    Executor.Leg.exists_last patience (.mk e request content budget)
  have hattempted := Executor.attempted l.executor patience l.request l.content
  rw [← Executor.Leg.attempt, ← (Executor.Leg.execute_of_last hk hlast).2] at hattempted
  change Executor.Attempted _ _ _ _ (e.execute patience request content budget).1
    (e.execute patience request content budget).2 at hattempted
  rw [h] at hattempted
  cases hattempted with
  | unanswered _ _ _ _ hnot => exact absurd rfl (hnot r)
  | answered hacquire hattach hwrite hread =>
    obtain ⟨x, -, -, rfl, -⟩ := Executor.acquire_eq_ok hacquire
    obtain ⟨context, rfl⟩ := Executor.eq_of_attach hattach
    obtain ⟨messages, hconnection⟩ := Executor.connection_of_readHead hread
    refine ⟨r.connection.messages, ?_, awaits_of_readHead hread⟩
    rw [← Executor.messages_of_readHead hread, hconnection]
    rfl

/-- **The ways to read a body agree.** The stream of a response that was just delivered has the
chunks of the visible part of what follows, in order, and then the failure, if the body stops at
another head or at a failure to read. Asking for chunks gives the same one by one, and whatever was
asked for before, the stream and the bytes are those of the rest. Once the end or the failure has
been told, there is nothing more to be had, and the connection is not read any more. The trailers
are then the last ones of the visible part. -/
theorem readers_agree (h : r.Awaits messages) :
    (failure? messages ≠ none ↔ (∃ head, stop? messages = some (.ok (.head head))) ∨
      ∃ f, stop? messages = some (.error f)) ∧
    r.stream = (chunks messages).map .ok ++ (failure? messages).toList.map .error ∧
    (∀ k, (r.afterCalls k).stream = r.stream.drop k) ∧
    (∀ k chunk, (chunks messages)[k]? = some chunk →
      (r.afterCalls k).nextChunk.1 = .done (some chunk)) ∧
    (∀ f, failure? messages = some f → f.stage = .body ∧
      (r.afterCalls (chunks messages).length).nextChunk.1 = .failed f ∧
      ∀ k ≤ (chunks messages).length, (r.afterCalls k).bytes.1 = .failed f) ∧
    (failure? messages = none →
      (r.afterCalls (chunks messages).length).nextChunk.1 = .done none ∧
      ∀ k ≤ (chunks messages).length,
        (r.afterCalls k).bytes.1 = .done ((chunks messages).drop k).flatten) ∧
    (∀ k, (r.afterCalls k).bytes.2.trailers = lastTrailers? messages) ∧
    ∀ k, (chunks messages).length < k →
      (r.afterCalls k).trailers = lastTrailers? messages ∧
      ∀ c, let s : Response := { r.afterCalls k with connection := c }
        s.nextChunk = (.done none, s) ∧ s.stream = [] ∧ s.bytes = (.done [], s) := by
  obtain rfl := h.unread_eq
  rw [← h.finalTrailers_eq]
  have hleaves : ∀ k, k ≤ (chunks r.unread).length →
      Leaves r (r.afterCalls k) ((chunks r.unread).drop k) :=
    fun k hk => leaves_afterCalls h.speaks hk
  have hlast := hleaves _ (Nat.le_refl _)
  rw [List.drop_length] at hlast
  refine ⟨failure?_ne_none_iff, Response.stream_eq h.speaks, stream_afterCalls h.speaks, ?_, ?_, ?_,
    trailers_bytes_afterCalls h.speaks, ?_⟩
  · intro k chunk hchunk
    obtain ⟨hlt, hget⟩ := List.getElem?_eq_some_iff.1 hchunk
    have hnext := hleaves k (Nat.le_of_lt hlt)
    rw [List.drop_eq_getElem_cons hlt, hget] at hnext
    exact hnext.nextChunk_of_cons
  · intro f hf
    refine ⟨stage_of_failure? hf, by rw [hlast.nextChunk_of_nil, hf], ?_⟩
    intro k hk
    rw [(hleaves k hk).bytes_eq.1, hf]
  · intro hnone
    refine ⟨by rw [hlast.nextChunk_of_nil, hnone], ?_⟩
    intro k hk
    rw [(hleaves k hk).bytes_eq.1, hnone]
  · intro k hk
    obtain ⟨hfinished, htrailers⟩ := ended_afterCalls h.speaks hk
    refine ⟨htrailers, fun c => ?_⟩
    exact ⟨nextChunk_of_finished hfinished, stream_of_finished hfinished,
      bytes_of_finished hfinished⟩

/-- Two chunks, one of them empty, with trailers around them, and then another response. -/
def crowdedMessages : List (Except Failure Inbound) :=
  [.ok (.trailers (Fields.empty.append .location { octets := [47] })), .ok (.body [97]),
    .ok (.body []), .ok (.trailers {}), .ok (.head { status := ⟨200⟩ }), .ok (.body [98])]

def crowded : Response :=
  { head := { status := ⟨200⟩ }
    connection :=
      { id := 1
        attempt := 0
        exchange := { conduct := .respond (.ok (.head { status := ⟨200⟩ }) :: crowdedMessages) }
        messages := crowdedMessages } }

theorem readers_crowded :
    crowded.stream =
      [.ok [97], .ok [], .error (.ofCause .body (.unexpectedMessage "response head inside body"))] ∧
    (crowded.afterCalls 1).bytes.1 =
      .failed (.ofCause .body (.unexpectedMessage "response head inside body")) ∧
    (crowded.afterCalls 3).trailers = some {} := by
  have hawaits : crowded.Awaits crowdedMessages := ⟨rfl, nofun, rfl, rfl⟩
  obtain ⟨-, hstream, -, -, hfailure, -, -, hended⟩ := readers_agree hawaits
  exact ⟨hstream, (hfailure _ rfl).2.2 1 (by decide), (hended 3 (by decide)).1⟩

end Response

end Courier
