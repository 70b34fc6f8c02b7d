import Courier.Proofs.Executor.Records
import Courier.Proofs.Redirect.Hop

/-!
# What is sent again

The content of an execution is sent with every attempt until a hop changes the method. From there on
the method is `GET` and nothing but the head and the end is sent, whatever the later hops do: the
content that was dropped does not come back.
-/

namespace Courier.Executor

open Redirect

namespace Leg

variable {patience : Duration} {l m m' : Leg} {k : Nat}

/-! ## Neighbours -/

/-- The leg after a leg of an execution is the one that it leads to. -/
theorem getElem?_legs_succ (hk : (l.legs patience)[k]? = some m) :
    (l.legs patience)[k + 1]? = m.next? patience := by
  fun_induction legs patience l generalizing k with
  | case1 l l' hnext =>
    rename_i ih
    cases k with
    | zero =>
      cases hk
      rw [List.getElem?_cons_succ, getElem?_legs_zero, hnext]
    | succ k => exact ih hk
  | case2 l hnext =>
    obtain ⟨rfl, rfl⟩ : k = 0 ∧ l = m := by simpa [List.getElem?_singleton] using hk
    rw [hnext]
    rfl

theorem exists_previous (hk : (l.legs patience)[k + 1]? = some m') :
    ∃ m, (l.legs patience)[k]? = some m ∧ m.next? patience = some m' := by
  have hlt : k < (l.legs patience).length :=
    Nat.lt_of_succ_lt (List.getElem?_eq_some_iff.1 hk).1
  have hm := List.getElem?_eq_getElem hlt
  exact ⟨_, hm, (getElem?_legs_succ hm).symm.trans hk⟩

/-- A leg that leads to another one makes a hop: the next request is that of the hop, and the
content is kept or dropped as the hop says. -/
theorem hop_of_next? (h : m.next? patience = some m') :
    ∃ (r : Rules) (response : Response) (target : Uri),
      (m.attempt patience).1 = .done response ∧
      m'.request = (r.hop m.request response.head.status target).request ∧
      m'.content = if (r.hop m.request response.head.status target).keepsContent then m.content
        else .empty := by
  obtain ⟨response, e, target, hattempt, -, -, -, rfl⟩ := next?_eq_some_iff.1 h
  exact ⟨e.rules, response, target, congrArg Prod.fst hattempt, rfl, rfl⟩

/-! ## Methods -/

/-- No hop of an execution up to its leg `k` changes the method. -/
def KeepsMethod (patience : Duration) (l : Leg) (k : Nat) : Prop :=
  ∀ (j : Nat) (m m' : Leg), j < k → (l.legs patience)[j]? = some m →
    (l.legs patience)[j + 1]? = some m' → m'.request.method = m.request.method

theorem KeepsMethod.of_succ (h : KeepsMethod patience l (k + 1)) : KeepsMethod patience l k :=
  fun j m m' hj => h j m m' (Nat.lt_succ_of_lt hj)

/-- While the method stays, so does the content. -/
theorem same_of_keepsMethod (h : KeepsMethod patience l k)
    (hk : (l.legs patience)[k]? = some m) :
    m.request.method = l.request.method ∧ m.content = l.content := by
  induction k generalizing m with
  | zero =>
    cases getElem?_legs_zero.symm.trans hk
    exact ⟨rfl, rfl⟩
  | succ k ih =>
    obtain ⟨m₀, hm₀, hnext⟩ := exists_previous hk
    obtain ⟨hmethod, hcontent⟩ := ih h.of_succ hm₀
    have hsame := h k m₀ m (Nat.lt_succ_self k) hm₀ hk
    obtain ⟨r, response, target, -, hrequest, hkept⟩ := hop_of_next? hnext
    refine ⟨hsame.trans hmethod, ?_⟩
    rw [hrequest] at hsame
    rw [hkept, if_pos (Rules.keepsContent_iff.2 hsame), hcontent]

/-- A leg behind a change of the method. -/
structure Stripped (m : Leg) : Prop where
  method : m.request.method = .get
  content : m.content = .empty
  bare : BareOfContent m.request

theorem Stripped.next? (h : m.Stripped) (hnext : m.next? patience = some m') : m'.Stripped := by
  obtain ⟨r, response, target, -, hrequest, hkept⟩ := hop_of_next? hnext
  refine ⟨?_, ?_, ?_⟩
  · rw [hrequest, Rules.method_hop, h.method, methodAfter_get]
  · rw [hkept, h.content, ite_self]
  · rw [hrequest]
    exact Rules.bareOfContent_hop h.bare

theorem stripped_of_method_ne (hnext : m.next? patience = some m')
    (h : m'.request.method ≠ m.request.method) : m'.Stripped := by
  obtain ⟨r, response, target, -, hrequest, hkept⟩ := hop_of_next? hnext
  rw [hrequest] at h
  refine ⟨?_, ?_, ?_⟩
  · rw [hrequest]
    exact (methodAfter_eq_or_eq_get _ _).resolve_left h
  · rw [hkept, if_neg (fun hkeeps => h (Rules.keepsContent_iff.1 hkeeps))]
  · rw [hrequest]
    exact Rules.bareOfContent_of_method_ne h

/-- What was dropped does not come back. -/
theorem stripped_of_not_keepsMethod (h : ¬ KeepsMethod patience l k)
    (hk : (l.legs patience)[k]? = some m) : m.Stripped := by
  induction k generalizing m with
  | zero => exact absurd (fun j _ _ hj => absurd hj (Nat.not_lt_zero j)) h
  | succ k ih =>
    obtain ⟨m₀, hm₀, hnext⟩ := exists_previous hk
    by_cases hbefore : KeepsMethod patience l k
    · -- the hop to this leg is the first one that changes the method
      refine stripped_of_method_ne hnext fun hsame => h ?_
      intro j i i' hj hi hi'
      rcases Nat.lt_succ_iff_lt_or_eq.1 hj with hj | rfl
      · exact hbefore j i i' hj hi hi'
      · cases hm₀.symm.trans hi
        cases hk.symm.trans hi'
        exact hsame
    · exact (ih hbefore hm₀).next? hnext

theorem method_head_of_leg (h : l.request.method = .head)
    (hk : (l.legs patience)[k]? = some m) : m.request.method = .head := by
  refine forall_legs (P := fun _ m => m.request.method = .head) h ?_ k m hk
  intro k m m' hm hnext
  obtain ⟨r, response, target, -, hrequest, -⟩ := hop_of_next? hnext
  rw [hrequest, Rules.method_hop, hm, methodAfter_head]

/-- The statuses 307 and 308 keep the method. -/
theorem keepsMethod_of_preserving
    (h : ∀ (j : Nat) (m : Leg) (r : Response), j < k → (l.legs patience)[j]? = some m →
      (m.attempt patience).1 = .done r → r.head.status.code = 307 ∨ r.head.status.code = 308) :
    KeepsMethod patience l k := by
  intro j m m' hj hm hm'
  obtain ⟨r, response, target, hdone, hrequest, -⟩ :=
    hop_of_next? ((getElem?_legs_succ hm).symm.trans hm')
  rw [hrequest, Rules.method_hop, methodAfter_of_preserving (h j m response hj hm hdone)]

/-! ## Frames -/

theorem settled_empty (request : Descriptor) :
    (FrameSequence.start request .empty).settled = [.frame (.head request), .frame .terminal] := by
  rw [FrameSequence.settled_start]
  rfl

/-- The frames of content, whatever the request: the head comes first, and what follows says only
what the content says. -/
theorem settled_eq_cons (request : Descriptor) (content : Content) :
    (FrameSequence.start request content).settled =
      .frame (.head request) :: (FrameSequence.start {} content).settled.tail := by
  rw [FrameSequence.settled_start, FrameSequence.settled_start]
  rfl

/-- The record of a leg whose write succeeded has all frames of its request. -/
theorem record_of_writes {c : Connection} {e₁ : Executor} (hk : (l.legs patience)[k]? = some m)
    (hacquire : m.executor.acquire m.request = (.ok c, e₁))
    (hwrites : e₁.Writes c m.request m.content) :
    ∃ record, (l.execute patience).2.peer.attempts[l.executor.peer.attempts.length + k]? =
        some record ∧ record.target = m.request ∧
      record.frames.map .frame = (FrameSequence.start m.request m.content).settled := by
  obtain ⟨control, frames, error, h, -, hattempts⟩ := transcript_after hacquire patience
  exact ⟨_, record_of_after hk hattempts, rfl, h.tells.all.2 hwrites⟩

/-- An attempt that brings a response has written its request. -/
theorem writes_of_attempt {r : Response} {e : Executor} (h : m.attempt patience = (.done r, e)) :
    ∃ c e₁, m.executor.acquire m.request = (.ok c, e₁) ∧ e₁.Writes c m.request m.content := by
  have hattempted := attempted m.executor patience m.request m.content
  rw [← attempt, h] at hattempted
  cases hattempted with
  | unanswered _ _ _ _ hnot => exact absurd rfl (hnot r)
  | answered hacquire hattach hwrite hread =>
    exact ⟨_, _, hacquire, _, _, _, hattach, hwrite⟩

/-- Where there are later legs, the write of the first one has succeeded. -/
theorem writes_of_later {m₀ : Leg} (hk : (l.legs patience)[k + 1]? = some m)
    (h₀ : (l.legs patience)[0]? = some m₀) :
    ∃ c e₁, m₀.executor.acquire m₀.request = (.ok c, e₁) ∧
      e₁.Writes c m₀.request m₀.content := by
  have hlt : 1 < (l.legs patience).length :=
    Nat.lt_of_le_of_lt (Nat.succ_le_succ (Nat.zero_le k)) (List.getElem?_eq_some_iff.1 hk).1
  obtain ⟨i, hi, hnext⟩ := exists_previous (List.getElem?_eq_getElem hlt)
  cases h₀.symm.trans hi
  obtain ⟨r, e, target, hattempt, -⟩ := next?_eq_some_iff.1 hnext
  exact writes_of_attempt hattempt

end Leg

theorem frames_eq_cons {frames : List Frame} {request : Descriptor} {polls : List FramePoll}
    (h : frames.map .frame = .frame (.head request) :: polls) :
    ∃ rest, frames = .head request :: rest ∧ rest.map .frame = polls := by
  cases frames with
  | nil => cases h
  | cons f rest =>
    obtain ⟨hf, hrest⟩ := List.cons.inj h
    cases hf
    exact ⟨rest, rfl, hrest⟩

theorem eq_of_map_frame_eq {frames frames' : List Frame}
    (h : frames.map FramePoll.frame = frames'.map .frame) : frames = frames' :=
  List.map_inj_right (fun _ _ hf => FramePoll.frame.inj hf) |>.1 h

open Leg

variable {e : Executor} {patience : Duration} {request : Descriptor} {content : Content}
  {budget : Budget}

/-- **What is sent again.** In an execution of any length, the leg after `k` others has the method
and the content of the first one if no hop up to it changed the method; and otherwise it has the
method `GET`, no content, and no header that describes content. A method `HEAD` stays, and if all
statuses are 307 or 308, then method and content stay. When the write of the leg succeeds, its
record has, behind the head, the same frames as the first record if the method was kept, and nothing
but the end if it was not. -/
theorem resends_of_execute {k : Nat} {l : Leg}
    (hk : ((Leg.mk e request content budget).legs patience)[k]? = some l) :
    (KeepsMethod patience (.mk e request content budget) k →
      l.request.method = request.method ∧ l.content = content) ∧
    (¬ KeepsMethod patience (.mk e request content budget) k →
      l.request.method = .get ∧ l.content = .empty ∧ BareOfContent l.request) ∧
    (content ≠ .empty →
      (l.content = content ↔ KeepsMethod patience (.mk e request content budget) k)) ∧
    (request.method = .head → l.request.method = .head) ∧
    ((∀ (j : Nat) (m : Leg) (r : Response), j < k →
      ((Leg.mk e request content budget).legs patience)[j]? = some m →
      (m.attempt patience).1 = .done r → r.head.status.code = 307 ∨ r.head.status.code = 308) →
        l.request.method = request.method ∧ l.content = content) ∧
    ∀ c e₁, l.executor.acquire l.request = (.ok c, e₁) → e₁.Writes c l.request l.content →
      ∃ first record rest,
        (e.execute patience request content budget).2.peer.attempts[
          e.peer.attempts.length]? = some first ∧
        first.frames = .head request :: rest ∧
        (e.execute patience request content budget).2.peer.attempts[
          e.peer.attempts.length + k]? = some record ∧
        record.target = l.request ∧
        (KeepsMethod patience (.mk e request content budget) k →
          record.frames = .head l.request :: rest) ∧
        (¬ KeepsMethod patience (.mk e request content budget) k →
          record.frames = [.head l.request, .terminal]) := by
  have hkept := fun h => same_of_keepsMethod h hk
  have hstripped := fun h => stripped_of_not_keepsMethod h hk
  refine ⟨hkept, ?_, ?_, ?_, ?_, ?_⟩
  · intro h
    exact ⟨(hstripped h).method, (hstripped h).content, (hstripped h).bare⟩
  · intro hne
    refine ⟨fun hcontent => ?_, fun h => (hkept h).2⟩
    by_cases h : KeepsMethod patience (.mk e request content budget) k
    · exact h
    · exact absurd (hcontent.symm.trans (hstripped h).content) hne
  · intro hhead
    exact method_head_of_leg hhead hk
  · intro hstatuses
    exact hkept (keepsMethod_of_preserving hstatuses)
  · intro c e₁ hacquire hwrites
    obtain ⟨record, hrecord, htarget, hframes⟩ := record_of_writes hk hacquire hwrites
    have hstart : ((Leg.mk e request content budget).legs patience)[0]? =
        some (.mk e request content budget) := getElem?_legs_zero
    obtain ⟨c₀, e₀, hacquire₀, hwrites₀⟩ : ∃ c₀ e₀, e.acquire request = (.ok c₀, e₀) ∧
        e₀.Writes c₀ request content := by
      cases k with
      | zero =>
        cases hstart.symm.trans hk
        exact ⟨c, e₁, hacquire, hwrites⟩
      | succ k => exact writes_of_later hk hstart
    obtain ⟨first, hfirst, -, hframes₀⟩ := record_of_writes hstart hacquire₀ hwrites₀
    dsimp only at hframes₀
    rw [settled_eq_cons] at hframes₀
    obtain ⟨rest, hrest, hpolls⟩ := frames_eq_cons hframes₀
    refine ⟨first, record, rest, hfirst, hrest, hrecord, htarget, ?_, ?_⟩
    · intro h
      rw [(hkept h).2, settled_eq_cons, ← hpolls] at hframes
      exact eq_of_map_frame_eq hframes
    · intro h
      rw [(hstripped h).content, settled_empty] at hframes
      exact eq_of_map_frame_eq hframes

/-- An executor whose peer answers every request with a status that leads to the root. -/
def sentRound (s : Status) : Executor :=
  { peer := { script := .always (.ofStatus s) }
    rules := { resolver := fun _ _ => some .root } }

/-- A posted letter. -/
def posting (s : Status) : Leg :=
  { executor := sentRound s
    request := { method := .post }
    content := { source := some (.once [97]) }
    budget := (Redirect.Limit.max 2).budget }

theorem sound_sentRound {l : Leg} {s : Status} (hexecutor : l.executor = sentRound s)
    (hreadable : l.content.Readable) : l.Sound := by
  refine ⟨?_, ?_, hreadable⟩
  · intro k _
    rw [hexecutor]
    exact ⟨.ofStatus s, rfl, rfl, rfl, rfl, _, _, rfl⟩
  · rw [hexecutor]
    intro _ _ h
    cases h

/-- The second attempt at a request that is sent round writes its request, and the method is that
of the hop. -/
theorem exists_second_leg_sentRound {l : Leg} {s : Status} (hexecutor : l.executor = sentRound s)
    (hreadable : l.content.Readable) (hbudget : l.budget.canFollow = true)
    (hs : s.isRedirect = true) :
    ∃ l' c e₁, (l.legs .zero)[1]? = some l' ∧ l'.request.method = methodAfter s l.request.method ∧
      l'.executor.acquire l'.request = (.ok c, e₁) ∧ e₁.Writes c l'.request l'.content := by
  have hsound : l.Sound := sound_sentRound hexecutor hreadable
  obtain ⟨r, e, hattempt⟩ : ∃ r e, l.attempt .zero = (.done r, e) := hsound.attempt
  have hhead : l.executor.peer.script.next.1.bind Exchange.head? = some { status := s } := by
    rw [hexecutor]
    rfl
  have htarget : l.executor.rules.resolver l.request { status := s } = some Uri.root := by
    rw [hexecutor]
    rfl
  obtain ⟨l', hnext, hk⟩ := exists_second_leg hattempt hhead hs hbudget htarget
  obtain ⟨r', e', hattempt'⟩ : ∃ r e, l'.attempt .zero = (.done r, e) :=
    (hsound.next? hnext).attempt
  obtain ⟨c, e₁, hacquire, hwrites⟩ := writes_of_attempt hattempt'
  refine ⟨l', c, e₁, hk, ?_, hacquire, hwrites⟩
  obtain ⟨rules, response, target, hdone, hrequest, -⟩ := hop_of_next? hnext
  rw [hattempt] at hdone
  cases hdone
  have hstatus : r.head.status = s :=
    congrArg ResponseHead.status (Option.some.inj ((head?_of_attempt hattempt).symm.trans hhead))
  rw [hrequest, Rules.method_hop, hstatus]

/-- The second attempt of a posted letter writes its request, and the method is that of the hop. -/
theorem exists_second_leg_posting {s : Status} (hs : s.isRedirect = true) :
    ∃ l c e₁, ((posting s).legs .zero)[1]? = some l ∧
      l.request.method = methodAfter s .post ∧
      l.executor.acquire l.request = (.ok c, e₁) ∧ e₁.Writes c l.request l.content :=
  exists_second_leg_sentRound rfl rfl rfl hs

theorem resends_posting :
    (∃ record, ((posting ⟨302⟩).execute .zero).2.peer.attempts[1]? = some record ∧
      record.target.method = .get ∧ record.frames = [.head record.target, .terminal]) ∧
    ∃ first record rest, ((posting ⟨307⟩).execute .zero).2.peer.attempts[0]? = some first ∧
      ((posting ⟨307⟩).execute .zero).2.peer.attempts[1]? = some record ∧
      record.target.method = .post ∧ first.frames = .head (posting ⟨307⟩).request :: rest ∧
      record.frames = .head record.target :: rest := by
  constructor
  · obtain ⟨l, c, e₁, hk, hmethod, hacquire, hwrites⟩ := exists_second_leg_posting (s := ⟨302⟩) rfl
    obtain ⟨hkept, -, -, -, -, hsent⟩ := resends_of_execute hk
    obtain ⟨-, record, -, -, -, hrecord, htarget, -, hstripped⟩ := hsent c e₁ hacquire hwrites
    have hchanged : ¬ KeepsMethod .zero (posting ⟨302⟩) 1 := by
      intro h
      have hsame := (hkept h).1
      rw [hmethod] at hsame
      exact absurd hsame (by decide)
    refine ⟨record, hrecord, ?_, ?_⟩
    · rw [htarget, hmethod]
      rfl
    · rw [htarget]
      exact hstripped hchanged
  · obtain ⟨l, c, e₁, hk, hmethod, hacquire, hwrites⟩ := exists_second_leg_posting (s := ⟨307⟩) rfl
    obtain ⟨-, -, -, -, -, hsent⟩ := resends_of_execute hk
    obtain ⟨first, record, rest, hfirst, hrest, hrecord, htarget, hsame, -⟩ :=
      hsent c e₁ hacquire hwrites
    have hkeeps : KeepsMethod .zero (posting ⟨307⟩) 1 := by
      intro j m m' hj hm hm'
      obtain rfl : j = 0 := Nat.lt_one_iff.1 hj
      cases getElem?_legs_zero.symm.trans hm
      cases hk.symm.trans hm'
      exact hmethod
    refine ⟨first, record, rest, hfirst, hrecord, ?_, hrest, ?_⟩
    · rw [htarget, hmethod]
      rfl
    · rw [htarget]
      exact hsame hkeeps

end Courier.Executor
