import Courier.Feed
import Courier.Proofs.Frame
import Mathlib.Order.Monotone.Basic

/-!
# Frame sequences that are fed

A fed sequence is asked again and again, at whatever times. While it is at its content, one poll of
it is one poll of the feed; where the feed has nothing yet, neither has the sequence. So a feed that
is slower, with more pending polls between its items, makes the sequence slower by just as much. The
sequence is terminated from its last answer on, and from then on leaves the feed alone.
-/

namespace Courier

/-! ## Insertions -/

section Insertions

variable {α : Type} {x : α} {a b : Nat → α}

/-- `b` is `a` with some `x` inserted, any number of them before each entry. -/
def Inserted (x : α) (a b : Nat → α) : Prop :=
  ∃ place : Nat → Nat, StrictMono place ∧ (∀ n, b (place n) = a n) ∧
    ∀ m, (∀ n, place n ≠ m) → b m = x

/-- Before the first entry stand the `x` that were inserted there. -/
theorem Inserted.next (h : Inserted x a b) : ∃ d, (∀ m < d, b m = x) ∧ b d = a 0 ∧
    Inserted x (fun n => a (n + 1)) fun m => b (d + 1 + m) := by
  obtain ⟨place, hmono, hplace, hgap⟩ := h
  have hlater : ∀ n, place 0 + 1 ≤ place (n + 1) := fun n => hmono (Nat.succ_pos n)
  refine ⟨place 0, fun m hm => hgap m fun n hn => ?_, hplace 0,
    fun n => place (n + 1) - (place 0 + 1), fun n n' hn => ?_, fun n => ?_, fun m hm => ?_⟩
  · have hle : place 0 ≤ place n := hmono.monotone (Nat.zero_le n)
    omega
  · have hlt : place (n + 1) < place (n' + 1) := hmono (Nat.succ_lt_succ hn)
    have hle := hlater n
    dsimp only
    omega
  · dsimp only
    rw [Nat.add_sub_cancel' (hlater n), hplace]
  · refine hgap _ fun n hn => ?_
    cases n with
    | zero => omega
    | succ n => exact hm n (Nat.sub_eq_of_eq_add' hn)

/-- Where the parts begin that a row is cut into one after the other, part `n` being one longer than
`d n i` if it begins at `i`. -/
def starts (d : Nat → Nat → Nat) : Nat → Nat
  | 0 => 0
  | n + 1 => starts d n + d n (starts d n) + 1

/-- Each place is in one of the parts. -/
theorem exists_starts (d : Nat → Nat → Nat) (m : Nat) :
    ∃ n, starts d n ≤ m ∧ m ≤ starts d n + d n (starts d n) := by
  induction m with
  | zero => exact ⟨0, Nat.le_refl 0, Nat.zero_le _⟩
  | succ m ih =>
    obtain ⟨n, hle, hlt⟩ := ih
    by_cases hm : m < starts d n + d n (starts d n)
    · exact ⟨n, by omega, hm⟩
    · refine ⟨n + 1, ?_, ?_⟩ <;> rw [starts] <;> omega

/-- Insertions are found step by step. Let `Follows n i` say that the rest of `b` from `i` on follows
that of `a` from `n` on: it has the entry `n` of `a` behind some `x`, and then follows again. -/
theorem inserted_of_follows (Follows : Nat → Nat → Prop) (hstart : Follows 0 0)
    (hnext : ∀ n i, Follows n i → ∃ d, (∀ m < d, b (i + m) = x) ∧ b (i + d) = a n ∧
      Follows (n + 1) (i + d + 1)) :
    Inserted x a b := by
  choose! d hgap hplace hrest using hnext
  -- entry `n` of `a` stands at the end of part `n` of `b`, behind the `x` that were inserted there
  have hfollows : ∀ n, Follows n (starts d n) := by
    intro n
    induction n with
    | zero => exact hstart
    | succ n ih => exact hrest n _ ih
  refine ⟨fun n => starts d n + d n (starts d n), strictMono_nat_of_lt_succ fun n => ?_,
    fun n => hplace n _ (hfollows n), fun m hm => ?_⟩
  · rw [starts]
    omega
  · obtain ⟨n, hle, hlt⟩ := exists_starts d m
    obtain ⟨i, rfl⟩ := Nat.exists_eq_add_of_le hle
    refine hgap n _ (hfollows n) i (Nat.lt_of_le_of_ne (Nat.le_of_add_le_add_left hlt) ?_)
    rintro rfl
    exact hm n rfl

end Insertions

/-! ## One poll -/

namespace FrameSequence

/-- The items that a sequence holds itself. -/
def items : FrameSequence → List ContentItem
  | start _ content => content.items
  | body items _ _ => items
  | done => []

/-- The sequence after it was polled `k` times. -/
def after (q : FrameSequence) : Nat → FrameSequence
  | 0 => q
  | k + 1 => (q.after k).poll.2

end FrameSequence

namespace FedSequence

variable {s t : FedSequence} {p : Option FramePoll} {trailers : Option TrailerFold} {k k' n : Nat}

/-- All that one poll of a fed sequence does. -/
inductive Polls : FedSequence → Option FramePoll → FedSequence → Prop
  | head {request : Descriptor} {content : Content} {feed : Option Feed} {n : Nat} :
    Polls ⟨.start request content, feed, n⟩ (some (.frame (.head request)))
      ⟨.body [] content.flush content.trailers, feed, n⟩
  | unit {flush : Option FlushRule} {trailers : Option TrailerFold} {feed : Feed} {n : Nat}
    {u : Octets} (given : feed n = some (.unit u)) :
    Polls ⟨.body [] flush trailers, feed, n⟩ (some (.frame (FrameSequence.contentFrame flush u)))
      ⟨.body [] flush (trailers.map (·.accept u)), feed, n + 1⟩
  | pending {flush : Option FlushRule} {trailers : Option TrailerFold} {feed : Feed} {n : Nat}
    (given : feed n = some .pending) :
    Polls ⟨.body [] flush trailers, feed, n⟩ (some .pending)
      ⟨.body [] flush trailers, feed, n + 1⟩
  | fault {flush : Option FlushRule} {trailers : Option TrailerFold} {feed : Feed} {n : Nat}
    {f : Fault} (given : feed n = some (.fault f)) :
    Polls ⟨.body [] flush trailers, feed, n⟩ (some (.failed (.ofFault .write f)))
      ⟨.done, feed, n + 1⟩
  | ended {flush : Option FlushRule} {trailers : Option TrailerFold} {feed : Feed} {n : Nat}
    (given : feed n = none) :
    Polls ⟨.body [] flush trailers, feed, n⟩ (some (.frame (FrameSequence.lastFrame trailers)))
      ⟨.done, feed, n + 1⟩
  | bare {flush : Option FlushRule} {trailers : Option TrailerFold} {n : Nat} :
    Polls ⟨.body [] flush trailers, none, n⟩ (some (.frame (FrameSequence.lastFrame trailers)))
      ⟨.done, none, n⟩
  | done {feed : Option Feed} {n : Nat} : Polls ⟨.done, feed, n⟩ none ⟨.done, feed, n⟩

theorem poll_body (flush : Option FlushRule) (trailers : Option TrailerFold) (feed : Feed)
    (n : Nat) : poll ⟨.body [] flush trailers, some feed, n⟩ =
      ((FrameSequence.body (feed n).toList flush trailers).poll.1,
        ⟨(FrameSequence.body (feed n).toList flush trailers).poll.2, some feed, n + 1⟩) := rfl

theorem poll_start {request : Descriptor} {content : Content} (h : content.items = [])
    (feed : Option Feed) (n : Nat) : poll ⟨.start request content, feed, n⟩ =
      (some (.frame (.head request)), ⟨.body [] content.flush content.trailers, feed, n⟩) := by
  rw [← h, content.items_eq]
  rfl

/-- A sequence that holds no items itself takes none but those of the feed. -/
theorem polls_poll (h : s.sequence.items = []) : Polls s s.poll.1 s.poll.2 := by
  obtain ⟨sequence, feed, n⟩ := s
  cases sequence with
  | start request content =>
    rw [poll_start h]
    exact .head
  | body items flush trailers =>
    obtain rfl : items = [] := h
    cases feed with
    | none => exact .bare
    | some feed =>
      rw [poll_body]
      cases hitem : feed n with
      | none => exact .ended hitem
      | some item =>
        cases item with
        | unit u => exact .unit hitem
        | pending => exact .pending hitem
        | fault f => exact .fault hitem
  | done => exact .done

/-- Whether an answer is the last one: a last frame, or a failure. -/
def endsWith : Option FramePoll → Bool
  | some (.frame frame) => frame.isLast
  | some (.failed _) => true
  | some .pending | none => false

theorem isLast_lastFrame : (FrameSequence.lastFrame trailers).isLast = true := by
  cases trailers <;> rfl

namespace Polls

variable (h : Polls s p t)
include h

theorem items : t.sequence.items = [] := by
  cases h <;> rfl

theorem feed_eq : t.feed = s.feed := by
  cases h <;> rfl

theorem polled : t.polled = s.polled ∨ t.polled = s.polled + 1 := by
  cases h with
  | head | bare | done => exact .inl rfl
  | unit | pending | fault | ended => exact .inr rfl

theorem isTerminated : t.isTerminated = (s.isTerminated || endsWith p) := by
  cases h with
  | head | unit | pending | fault | done => rfl
  | ended | bare => exact isLast_lastFrame.symm

theorem eq_none_iff : p = none ↔ s.isTerminated = true := by
  cases h <;> simp [FedSequence.isTerminated, FrameSequence.isTerminated]

theorem eq_of_isTerminated (hs : s.isTerminated = true) : t = s := by
  cases h with
  | done => rfl
  | _ => cases hs

theorem eq_pending_iff : p = some .pending ↔
    ∃ feed, s.feed = some feed ∧ t.polled = s.polled + 1 ∧ feed s.polled = some .pending := by
  cases h <;> simp_all

end Polls

/-! ## Poll after poll -/

/-- The sequence after it was polled `k` times. -/
def after (s : FedSequence) : Nat → FedSequence
  | 0 => s
  | k + 1 => (s.after k).poll.2

/-- What poll `k` gives. -/
def answer (s : FedSequence) (k : Nat) : Option FramePoll :=
  (s.after k).poll.1

/-- Poll `k` of the sequence is poll `n` of its feed. -/
def Takes (s : FedSequence) (k n : Nat) : Prop :=
  (s.after k).polled = n ∧ (s.after (k + 1)).polled = n + 1

section Run

variable (hs : s.sequence.items = [])
include hs

theorem items_after (k : Nat) : (s.after k).sequence.items = [] := by
  induction k with
  | zero => exact hs
  | succ k ih => exact (polls_poll ih).items

theorem polls_after (k : Nat) : Polls (s.after k) (s.answer k) (s.after (k + 1)) :=
  polls_poll (items_after hs k)

theorem feed_after (k : Nat) : (s.after k).feed = s.feed := by
  induction k with
  | zero => rfl
  | succ k ih => exact (polls_after hs k).feed_eq.trans ih

theorem polled_mono {j : Nat} (hj : k ≤ j) : (s.after k).polled ≤ (s.after j).polled := by
  induction j, hj using Nat.le_induction with
  | base => exact Nat.le_refl _
  | succ j _ ih => rcases (polls_after hs j).polled with h | h <;> omega

theorem takes_unique (hk : s.Takes k n) (hk' : s.Takes k' n) : k = k' := by
  obtain ⟨hbefore, hafter⟩ := hk
  obtain ⟨hbefore', hafter'⟩ := hk'
  rcases Nat.lt_trichotomy k k' with hlt | heq | hlt
  · have hle : (s.after (k + 1)).polled ≤ (s.after k').polled := polled_mono hs hlt
    omega
  · exact heq
  · have hle : (s.after (k' + 1)).polled ≤ (s.after k).polled := polled_mono hs hlt
    omega

/-- Each poll of the feed is made by exactly one poll of the sequence. -/
theorem existsUnique_takes {K : Nat} (hpolled : s.polled ≤ n) (hn : n < (s.after K).polled) :
    ∃! k, k < K ∧ s.Takes k n := by
  have hexists : ∃ k < K, s.Takes k n := by
    induction K with
    | zero => exact absurd hn (Nat.not_lt.2 hpolled)
    | succ K ih =>
      by_cases hbefore : n < (s.after K).polled
      · obtain ⟨k, hk, htakes⟩ := ih hbefore
        exact ⟨k, Nat.lt_succ_of_lt hk, htakes⟩
      · refine ⟨K, Nat.lt_succ_self K, ?_⟩
        rcases (polls_after hs K).polled with h | h <;> constructor <;> omega
  obtain ⟨k, hk, htakes⟩ := hexists
  exact ⟨k, ⟨hk, htakes⟩, fun k' hk' => takes_unique hs hk'.2 htakes⟩

theorem answer_eq_pending_iff (k : Nat) : s.answer k = some .pending ↔
    ∃ feed n, s.feed = some feed ∧ s.Takes k n ∧ feed n = some .pending := by
  rw [(polls_after hs k).eq_pending_iff, feed_after hs k]
  constructor
  · rintro ⟨feed, hfeed, hpolled, hgiven⟩
    exact ⟨feed, _, hfeed, ⟨rfl, hpolled⟩, hgiven⟩
  · rintro ⟨feed, n, hfeed, ⟨rfl, hpolled⟩, hgiven⟩
    exact ⟨feed, hfeed, hpolled, hgiven⟩

/-- A sequence is terminated from the answer on that ends it. -/
theorem isTerminated_after_iff (hrunning : s.isTerminated = false) (k : Nat) :
    (s.after k).isTerminated = true ↔ ∃ j < k, endsWith (s.answer j) = true := by
  induction k with
  | zero => simp [after, hrunning]
  | succ k ih =>
    rw [(polls_after hs k).isTerminated, Bool.or_eq_true, ih, Nat.exists_lt_succ_right]

/-- A sequence that is terminated stays as it is. -/
theorem after_eq_of_isTerminated {k : Nat} (hk : (s.after k).isTerminated = true) {j : Nat}
    (hj : k ≤ j) : s.after j = s.after k := by
  induction j, hj using Nat.le_induction with
  | base => rfl
  | succ j _ ih =>
    exact ((polls_after hs j).eq_of_isTerminated (ih ▸ hk)).trans ih

theorem isTerminated_after_iff_silent (k : Nat) :
    (s.after k).isTerminated = true ↔ ∀ j ≥ k, s.answer j = none := by
  constructor
  · intro hk j hj
    rw [(polls_after hs j).eq_none_iff, after_eq_of_isTerminated hs hk hj]
    exact hk
  · exact fun hnone => (polls_after hs k).eq_none_iff.1 (hnone k (Nat.le_refl k))

end Run

/-! ## Slower feeds -/

/-- Two sequences that stand at the same place, and the feed of the second has pending polls
inserted. -/
inductive Slower : FedSequence → FedSequence → Prop
  | mk {sequence : FrameSequence} {feed feed' : Feed} {n n' : Nat}
    (rest : Inserted (some .pending) (fun m => feed (n + m)) fun m => feed' (n' + m)) :
    Slower ⟨sequence, some feed, n⟩ ⟨sequence, some feed', n'⟩

/-- Polled until its feed gives something else, the slower sequence gives the same answer. -/
theorem Slower.next (h : Slower s t) (hs : s.sequence.items = []) :
    ∃ d, (∀ m < d, t.answer m = some .pending) ∧ t.answer d = s.poll.1 ∧
      Slower s.poll.2 (t.after (d + 1)) := by
  obtain @⟨sequence, feed, feed', n, n', hrest⟩ := h
  cases sequence with
  | start request content =>
    refine ⟨0, nofun, ?_, ?_⟩
    · rw [answer, after, poll_start hs, poll_start hs]
    · rw [after, after, poll_start hs, poll_start hs]
      exact .mk hrest
  | body items flush trailers =>
    obtain rfl : items = [] := hs
    obtain ⟨d, hgap, hplace, hlater⟩ := hrest.next
    have hwait : ∀ m ≤ d, after ⟨.body [] flush trailers, some feed', n'⟩ m =
        ⟨.body [] flush trailers, some feed', n' + m⟩ := by
      intro m hm
      induction m with
      | zero => rfl
      | succ m ih =>
        rw [after, ih (Nat.le_of_succ_le hm), poll_body, hgap m hm]
        rfl
    refine ⟨d, fun m hm => ?_, ?_, ?_⟩
    · rw [answer, hwait m (Nat.le_of_lt hm), poll_body, hgap m hm]
      rfl
    · rw [answer, hwait d (Nat.le_refl d), poll_body, hplace]
      rfl
    · rw [after, hwait d (Nat.le_refl d), poll_body, poll_body, hplace]
      refine .mk ?_
      simpa only [Nat.add_assoc, Nat.add_comm 1] using hlater
  | done => exact ⟨0, nofun, rfl, .mk hrest⟩

theorem after_add (s : FedSequence) (i m : Nat) : s.after (i + m) = (s.after i).after m := by
  induction m with
  | zero => rfl
  | succ m ih => rw [← Nat.add_assoc, after, ih, after]

/-- A slower feed makes the sequence slower, and that is all. -/
theorem Slower.inserted (h : Slower s t) (hs : s.sequence.items = []) :
    Inserted (some .pending) s.answer t.answer := by
  refine inserted_of_follows (fun n i => Slower (s.after n) (t.after i)) h ?_
  intro n i hslower
  obtain ⟨d, hgap, hplace, hrest⟩ := hslower.next (items_after hs n)
  refine ⟨d, fun m hm => ?_, ?_, ?_⟩
  · rw [answer, after_add]
    exact hgap m hm
  · rw [answer, after_add]
    exact hplace
  · rw [Nat.add_assoc, after_add t]
    exact hrest

/-! ## Sources as feeds -/

/-- A fed sequence that has yet to say what a sequence has that holds its items. -/
inductive Serves : FedSequence → FrameSequence → Prop
  | start {request : Descriptor} {content : Content} :
    Serves (build request content) (.start request content)
  | body {items : List ContentItem} {flush : Option FlushRule} {trailers : Option TrailerFold}
    {feed : Feed} {n : Nat} (rest : ∀ m, feed (n + m) = items[m]?) :
    Serves ⟨.body [] flush trailers, some feed, n⟩ (.body items flush trailers)
  | bare {flush : Option FlushRule} {trailers : Option TrailerFold} {n : Nat} :
    Serves ⟨.body [] flush trailers, none, n⟩ (.body [] flush trailers)
  | done {feed : Option Feed} {n : Nat} : Serves ⟨.done, feed, n⟩ .done

theorem Serves.isTerminated {q : FrameSequence} (h : Serves s q) :
    s.isTerminated = q.isTerminated := by
  cases h <;> rfl

theorem Serves.poll {q : FrameSequence} (h : Serves s q) :
    s.poll.1 = q.poll.1 ∧ Serves s.poll.2 q.poll.2 := by
  cases h with
  | @start request content =>
    refine ⟨rfl, ?_⟩
    obtain ⟨source, flush, trailers⟩ := content
    cases source with
    | none => exact .bare
    | some source => exact .body fun m => congrArg (source.items[·]?) (Nat.zero_add m)
  | @body items flush trailers feed n hrest =>
    have hfirst : feed n = items[0]? := hrest 0
    have hlater : ∀ m, feed (n + 1 + m) = items[m + 1]? := fun m => by
      rw [← hrest, Nat.add_assoc, Nat.add_comm 1]
    rw [poll_body, hfirst]
    match items with
    | [] => exact ⟨rfl, .done⟩
    | .unit u :: items => exact ⟨rfl, .body hlater⟩
    | .pending :: items => exact ⟨rfl, .body hlater⟩
    | .fault f :: items => exact ⟨rfl, .done⟩
  | bare => exact ⟨rfl, .done⟩
  | done => exact ⟨rfl, .done⟩

theorem serves_after (request : Descriptor) (content : Content) (k : Nat) :
    Serves ((build request content).after k) ((FrameSequence.start request content).after k) := by
  induction k with
  | zero => exact .start
  | succ k ih => exact ih.poll.2

/-- Over the feed of its source, a fed sequence gives what the sequence gives that holds the items,
poll by poll. -/
theorem answer_build (request : Descriptor) (content : Content) (k : Nat) :
    (build request content).answer k = ((FrameSequence.start request content).after k).poll.1 ∧
      ((build request content).after k).isTerminated =
        ((FrameSequence.start request content).after k).isTerminated :=
  ⟨(serves_after request content k).poll.1, (serves_after request content k).isTerminated⟩

/-! ## All polls -/

/-- **A fed sequence keeps step with its feed.** Pending polls that are inserted in the feed are
pending polls inserted in the answers, which are otherwise the same. Each poll of the feed is made
by exactly one poll of the sequence, and this one is pending if and only if the feed was, while
every other answer is not. The sequence is terminated from the last frame or the failure on, and
this is where nothing but `none` is answered any more; from there on the feed is not polled. -/
theorem keeps_step (request : Descriptor) (content : Option Feed) (flush : Option FlushRule)
    (trailers : Option TrailerFold) :
    let s := start request content flush trailers
    (∀ feed feed', content = some feed → Inserted (some .pending) feed feed' →
      Inserted (some .pending) s.answer (start request (some feed') flush trailers).answer) ∧
    (∀ n K, n < (s.after K).polled → ∃! k, k < K ∧ s.Takes k n) ∧
    (∀ k, s.answer k = some .pending ↔
      ∃ feed n, content = some feed ∧ s.Takes k n ∧ feed n = some .pending) ∧
    (∀ k, (s.after k).isTerminated = true ↔ ∃ j < k, endsWith (s.answer j) = true) ∧
    (∀ k, (s.after k).isTerminated = true ↔ ∀ j ≥ k, s.answer j = none) ∧
    ∀ k, (s.after k).isTerminated = true →
      ∀ j ≥ k, (s.after j).polled = (s.after k).polled := by
  intro s
  have hs : s.sequence.items = [] := rfl
  refine ⟨?_, fun n K => existsUnique_takes hs (Nat.zero_le n), answer_eq_pending_iff hs,
    isTerminated_after_iff hs rfl, isTerminated_after_iff_silent hs, ?_⟩
  · rintro feed feed' rfl hinserted
    refine Slower.inserted (.mk ?_) hs
    simpa only [Nat.zero_add] using hinserted
  · intro k hk j hj
    rw [after_eq_of_isTerminated hs hk hj]

/-- A feed of one unit that is there when it is asked for, and the same behind pending polls. -/
def promptFeed : Feed := .ofItems [.unit [97]]

def slowFeed : Feed := .ofItems [.pending, .unit [97], .pending]

theorem inserted_slowFeed : Inserted (some .pending) promptFeed slowFeed := by
  refine ⟨fun n => if n = 0 then 1 else n + 2, fun n n' hn => ?_, fun n => ?_, fun m hm => ?_⟩
  · dsimp only
    split <;> split <;> omega
  · cases n <;> rfl
  · match m, hm with
    | 0, _ => rfl
    | 1, hm => exact absurd rfl (hm 0)
    | 2, _ => rfl
    | m + 3, hm => exact absurd rfl (hm (m + 1))

theorem keeps_step_slowFeed :
    Inserted (some .pending) (start {} (some promptFeed) none none).answer
      (start {} (some slowFeed) none none).answer ∧
    (start {} (some slowFeed) none none).answer 3 = some .pending ∧
    ((start {} (some slowFeed) none none).after 5).isTerminated = true := by
  refine ⟨(keeps_step {} (some promptFeed) none none).1 _ _ rfl inserted_slowFeed, ?_, ?_⟩
  · exact ((keeps_step {} (some slowFeed) none none).2.2.1 3).2 ⟨_, 2, rfl, ⟨rfl, rfl⟩, rfl⟩
  · exact ((keeps_step {} (some slowFeed) none none).2.2.2.1 5).2 ⟨4, by decide, rfl⟩

end FedSequence

end Courier
