import Courier.Proofs.Response

/-!
# When trailers show

Trailers are kept from the moment on when they are passed, and show from then on. So they show too
early where the body goes on behind them, with a chunk or with a failure. Where the peer sends them
last, they show only when a call has told the end of the body.
-/

namespace Courier

/-! ## Bodies that end with their trailers -/

namespace Body

/-- Behind the trailers of a body comes no chunk of it, and no failure ends it. -/
def TrailersLast (messages : List (Except Failure Inbound)) : Prop :=
  ∀ before fields after, messages = before ++ .ok (.trailers fields) :: after →
    (∀ m ∈ before, goesOn m = true) → chunks after = [] ∧ failure? after = none

variable {chunk : Octets} {fields : Fields} {before rest : List (Except Failure Inbound)}

theorem chunks_append (hbefore : ∀ m ∈ before, goesOn m = true) :
    chunks (before ++ rest) = before.filterMap chunk? ++ chunks rest := by
  rw [chunks, visible, List.takeWhile_append_of_pos hbefore, List.filterMap_append]
  rfl

theorem failure?_append (hbefore : ∀ m ∈ before, goesOn m = true) :
    failure? (before ++ rest) = failure? rest := by
  rw [failure?, stop?, List.dropWhile_append_of_pos hbefore]
  rfl

/-- Trailers come last behind nothing, and behind a message that is none of the body. -/
theorem trailersLast_of_stop (hrest : ∀ m ∈ rest.head?, goesOn m = false) : TrailersLast rest := by
  intro before fields after hmessages hbefore
  subst hmessages
  cases before with
  | nil => cases hrest _ rfl
  | cons m before =>
    have hgoes := hbefore m List.mem_cons_self
    rw [hrest m rfl] at hgoes
    cases hgoes

theorem trailersLast_body : TrailersLast (.ok (.body chunk) :: rest) ↔ TrailersLast rest := by
  constructor
  · rintro h before fields after rfl hbefore
    refine h (.ok (.body chunk) :: before) fields after rfl fun m hm => ?_
    rcases List.mem_cons.1 hm with rfl | hm
    · rfl
    · exact hbefore m hm
  · intro h before fields after hmessages hbefore
    cases before with
    | nil => cases hmessages
    | cons m before =>
      obtain ⟨-, rfl⟩ := List.cons.inj hmessages
      exact h before fields after rfl fun m hm => hbefore m (List.mem_cons_of_mem _ hm)

theorem trailersLast_trailers : TrailersLast (.ok (.trailers fields) :: rest) ↔
    chunks rest = [] ∧ failure? rest = none := by
  constructor
  · exact fun h => h [] fields rest rfl (List.forall_mem_nil _)
  · rintro ⟨hchunks, hfailure⟩ before fields' after hmessages hbefore
    cases before with
    | nil =>
      obtain ⟨-, rfl⟩ := List.cons.inj hmessages
      exact ⟨hchunks, hfailure⟩
    | cons m before =>
      obtain ⟨-, hrest⟩ := List.cons.inj hmessages
      have hgoes : ∀ m ∈ before, goesOn m = true := fun m hm =>
        hbefore m (List.mem_cons_of_mem _ hm)
      rw [List.append_eq] at hrest
      rw [hrest, chunks_append hgoes, chunks_trailers, List.append_eq_nil_iff] at hchunks
      rw [hrest, failure?_append hgoes, failure?_trailers] at hfailure
      exact ⟨hchunks.2, hfailure⟩

end Body

namespace Response

open Body

variable {r : Response} {chunk : Octets} {messages : List (Except Failure Inbound)}

/-- Before call `k` the end of the body has been told, and no failure. -/
def ReadToEnd (r : Response) (k : Nat) : Prop :=
  (∃ j < k, (r.afterCalls j).nextChunk.1 = .done none) ∧
    ∀ j < k, ∀ f, (r.afterCalls j).nextChunk.1 ≠ .failed f

/-- Trailers show only when the body has been read to its end. -/
def TrailersAtEnd (r : Response) : Prop :=
  ∀ k, (r.afterCalls k).trailers ≠ none → r.ReadToEnd k

/-! ## Calls one after the other -/

theorem afterCalls_succ (k : Nat) : r.afterCalls (k + 1) = r.nextChunk.2.afterCalls k := by
  induction k with
  | zero => rfl
  | succ k ih => rw [afterCalls, ih, afterCalls]

theorem afterCalls_of_finished (h : r.finished = true) (k : Nat) : r.afterCalls k = r := by
  induction k with
  | zero => rfl
  | succ k ih => rw [afterCalls, ih, nextChunk_of_finished h]

theorem finished_of_nextChunk_none (h : r.nextChunk.1 = .done none) :
    r.nextChunk.2.finished = true := by
  fun_induction nextChunk r with
  | case1 r hr => exact hr
  | case2 | case6 | case7 | case8 => cases h
  | case3 r hr fields c hread ih => exact ih h
  | case4 | case5 => rfl

/-- Trailers that show are replaced at most. -/
theorem trailers_nextChunk_ne_none (h : r.trailers ≠ none) : r.nextChunk.2.trailers ≠ none := by
  fun_induction nextChunk r with
  | case3 r hr fields c hread ih => exact ih (Option.some_ne_none fields)
  | case1 | case2 | case4 | case5 | case6 | case7 | case8 => exact h

/-- Once the end has been told without a failure before, no failure comes. -/
theorem readToEnd_of_none (h : r.nextChunk.1 = .done none) (k : Nat) : r.ReadToEnd (k + 1) := by
  have hfinished := finished_of_nextChunk_none h
  refine ⟨⟨0, Nat.succ_pos k, h⟩, fun j _ f hf => ?_⟩
  cases j with
  | zero => cases h.symm.trans hf
  | succ j =>
    rw [afterCalls_succ, afterCalls_of_finished hfinished, nextChunk_of_finished hfinished] at hf
    cases hf

theorem readToEnd_succ_of_chunk (h : r.nextChunk.1 = .done (some chunk)) (k : Nat) :
    r.ReadToEnd (k + 1) ↔ r.nextChunk.2.ReadToEnd k := by
  constructor
  · rintro ⟨⟨j, hj, hend⟩, hnone⟩
    refine ⟨?_, fun j hj f => ?_⟩
    · cases j with
      | zero => cases h.symm.trans hend
      | succ j => exact ⟨j, Nat.lt_of_succ_lt_succ hj, afterCalls_succ (r := r) j ▸ hend⟩
    · exact afterCalls_succ (r := r) j ▸ hnone (j + 1) (Nat.succ_lt_succ hj) f
  · rintro ⟨⟨j, hj, hend⟩, hnone⟩
    refine ⟨⟨j + 1, Nat.succ_lt_succ hj, ?_⟩, fun j hj f => ?_⟩
    · rw [afterCalls_succ]
      exact hend
    · cases j with
      | zero => exact fun hf => nomatch h.symm.trans hf
      | succ j =>
        rw [afterCalls_succ]
        exact hnone j (Nat.lt_of_succ_lt_succ hj) f

/-! ## One call -/

theorem trailersAtEnd_of_chunk (hr : r.trailers = none)
    (h : r.nextChunk.1 = .done (some chunk)) : r.TrailersAtEnd ↔ r.nextChunk.2.TrailersAtEnd := by
  constructor
  · intro hat k hk
    rw [← afterCalls_succ] at hk
    exact (readToEnd_succ_of_chunk h k).1 (hat (k + 1) hk)
  · intro hat k hk
    cases k with
    | zero => exact absurd hr hk
    | succ k =>
      rw [afterCalls_succ] at hk
      exact (readToEnd_succ_of_chunk h k).2 (hat k hk)

/-- Where the body ends before any trailers, none show. -/
theorem trailersAtEnd_of_finished (hr : r.trailers = none)
    (hfinished : r.nextChunk.2.finished = true) (hs : r.nextChunk.2.trailers = none) :
    r.TrailersAtEnd := by
  intro k hk
  cases k with
  | zero => exact absurd hr hk
  | succ k =>
    rw [afterCalls_succ, afterCalls_of_finished hfinished] at hk
    exact absurd hs hk

/-- Trailers that show after the first call show at the end where this call tells the end. -/
theorem trailersAtEnd_of_trailers (hr : r.trailers = none) (hs : r.nextChunk.2.trailers ≠ none) :
    r.TrailersAtEnd ↔ r.nextChunk.1 = .done none := by
  constructor
  · intro hat
    obtain ⟨⟨j, hj, hend⟩, -⟩ := hat 1 hs
    obtain rfl : j = 0 := Nat.lt_one_iff.1 hj
    exact hend
  · intro hend k hk
    cases k with
    | zero => exact absurd hr hk
    | succ k => exact readToEnd_of_none hend k

/-! ## What is read first -/

theorem nextChunk_eq_none_iff (hspeaks : r.Speaks) :
    r.nextChunk.1 = .done none ↔ chunks r.unread = [] ∧ failure? r.unread = none := by
  have htook := took_nextChunk hspeaks
  generalize r.nextChunk.1 = answer at htook ⊢
  cases htook with
  | chunk hnext => simp [hnext]
  | failed _ hfailure => simp [hfailure]
  | ended hnone hfailure => simp [hnone, hfailure]

/-- What is first of all that a response has yet to read, and what a call makes of it where no
trailers show yet. -/
inductive Starts (r s : Response) : Ending (Option Octets) → Prop
  | chunk {chunk : Octets} (unread : r.unread = .ok (.body chunk) :: s.unread)
    (hidden : s.trailers = none) : Starts r s (.done (some chunk))
  | trailers {answer : Ending (Option Octets)} {fields : Fields}
    {rest : List (Except Failure Inbound)} (unread : r.unread = .ok (.trailers fields) :: rest)
    (shown : s.trailers ≠ none) : Starts r s answer
  | stop {answer : Ending (Option Octets)}
    (unread : ∀ m ∈ r.unread.head?, goesOn m = false) (finished : s.finished = true)
    (hidden : s.trailers = none) : Starts r s answer

theorem starts_nextChunk (hspeaks : r.Speaks) (hr : r.trailers = none) :
    Starts r r.nextChunk.2 r.nextChunk.1 := by
  fun_cases nextChunk r with
  | case1 hfinished =>
    refine .stop ?_ hfinished hr
    rw [unread_of_finished hfinished]
    rintro m ⟨⟩
  | case2 hunfinished chunk c hread =>
    exact .chunk (unread_of_message hunfinished hspeaks hread) hr
  | case3 hunfinished fields c hread =>
    refine .trailers (unread_of_message hunfinished hspeaks hread) ?_
    exact trailers_nextChunk_ne_none (Option.some_ne_none fields)
  | case4 hunfinished c hread =>
    refine .stop ?_ rfl hr
    rw [unread_of_message hunfinished hspeaks hread]
    rintro m ⟨⟩
    rfl
  | case5 hunfinished c hread =>
    refine .stop ?_ rfl hr
    rcases Connection.reads_of_read hspeaks hread with _ | _ | hincoming
    rw [unread_of_unfinished hunfinished, hincoming]
    rintro m ⟨⟩
  | case6 hunfinished c hread => cases Connection.reads_of_read hspeaks hread
  | case7 hunfinished head c hread =>
    refine .stop ?_ rfl hr
    rw [unread_of_message hunfinished hspeaks hread]
    rintro m ⟨⟩
    rfl
  | case8 hunfinished f c hread =>
    refine .stop ?_ rfl hr
    rcases Connection.reads_of_read hspeaks hread with _ | hincoming
    rw [unread_of_unfinished hunfinished, hincoming]
    rintro m ⟨⟩
    rfl

/-! ## All of the body -/

theorem trailersAtEnd_iff_unread {r : Response} (hspeaks : r.Speaks) (hr : r.trailers = none) :
    r.TrailersAtEnd ↔ TrailersLast r.unread := by
  have hstarts := starts_nextChunk hspeaks hr
  generalize hanswer : r.nextChunk.1 = answer at hstarts
  cases hstarts with
  | chunk hunread hidden =>
    rw [trailersAtEnd_of_chunk hr hanswer, hunread, trailersLast_body]
    exact trailersAtEnd_iff_unread (speaks_nextChunk hspeaks) hidden
  | trailers hunread shown =>
    rw [trailersAtEnd_of_trailers hr shown, nextChunk_eq_none_iff hspeaks, hunread,
      chunks_trailers, failure?_trailers, trailersLast_trailers]
  | stop hunread hfinished hidden =>
    exact iff_of_true (trailersAtEnd_of_finished hr hfinished hidden)
      (trailersLast_of_stop hunread)
termination_by r.remaining
decreasing_by exact remaining_lt_of_nextChunk (Prod.ext hanswer rfl) (by simp) nofun

/-- **Trailers show only at the end just where the peer sends them last.** A response that was just
delivered shows trailers only after a call has told the end of the body, and none a failure, if and
only if behind the trailers that the peer sends there is no chunk of the body, and no failure and
no other head that ends it. -/
theorem trailersAtEnd_iff (h : r.Awaits messages) : r.TrailersAtEnd ↔ TrailersLast messages := by
  rw [trailersAtEnd_iff_unread h.speaks h.trailers, h.unread_eq]

/-- A response behind whose head these messages are to follow. -/
def sending (messages : List Inbound) : Response :=
  let head : ResponseHead := { status := ⟨200⟩ }
  { head
    connection :=
      { id := 1
        attempt := 0
        exchange := .ofMessages (.head head :: messages)
        messages := messages.map .ok } }

theorem awaits_sending (messages : List Inbound) :
    (sending messages).Awaits (messages.map .ok) :=
  ⟨rfl, nofun, rfl, rfl⟩

def checksum : Fields :=
  Fields.empty.append { text := "x-sum".toList } { octets := [49] }

theorem trailersAtEnd_sending_last :
    (sending [.body [97], .trailers checksum, .finished]).TrailersAtEnd ∧
    ((sending [.body [97], .trailers checksum, .finished]).afterCalls 2).trailers = some checksum := by
  have hawaits := awaits_sending [.body [97], .trailers checksum, .finished]
  have hended := ended_afterCalls hawaits.speaks (k := 2)
  rw [hawaits.unread_eq, hawaits.finalTrailers_eq] at hended
  refine ⟨(trailersAtEnd_iff hawaits).2 ?_, (hended (by decide)).2⟩
  exact trailersLast_body.2 (trailersLast_trailers.2 ⟨rfl, rfl⟩)

/-- Trailers that are sent before a chunk show with this chunk, when the end is yet to come. -/
theorem not_trailersAtEnd_sending_first :
    let r := sending [.trailers checksum, .body [97], .finished]
    r.nextChunk.1 = .done (some [97]) ∧ (r.afterCalls 1).trailers ≠ none ∧
      (r.afterCalls 1).nextChunk.1 = .done none ∧ ¬ r.TrailersAtEnd := by
  intro r
  have hawaits := awaits_sending [.trailers checksum, .body [97], .finished]
  have hleaves := fun k => leaves_afterCalls hawaits.speaks (k := k)
  rw [hawaits.unread_eq] at hleaves
  have hfirst : r.nextChunk.1 = .done (some [97]) := (hleaves 0 (by decide)).nextChunk_of_cons
  have hsecond : (r.afterCalls 1).nextChunk.1 = .done none := by
    rw [(hleaves 1 (by decide)).nextChunk_of_nil, hawaits.unread_eq]
    rfl
  have hshown : r.nextChunk.2.trailers ≠ none := by
    have hstarts := starts_nextChunk hawaits.speaks hawaits.trailers
    generalize (sending _).nextChunk.1 = answer at hstarts
    cases hstarts with
    | chunk hunread => cases hunread
    | trailers _ shown => exact shown
    | stop hunread => cases hunread _ rfl
  refine ⟨hfirst, hshown, hsecond, fun hat => ?_⟩
  cases hfirst.symm.trans ((trailersAtEnd_of_trailers hawaits.trailers hshown).1 hat)

end Response

end Courier
