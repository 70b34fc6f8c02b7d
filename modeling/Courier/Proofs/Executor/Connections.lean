import Courier.Proofs.Executor.Records

/-!
# Which connections are open

A record is open from the acquisition that gave its connection to the close of that connection. An
attempt closes its connection on every way that brings no response, and a response that is followed
is closed before the next attempt. So an execution has at most one open connection at any moment,
and none but that of its response when it is over.
-/

namespace Courier

/-! ## Open records -/

/-- The connection of a record, while it is open. -/
def Attempt.open? (a : Attempt) : Option Nat :=
  if a.closed then none else a.connection

theorem Attempt.open?_eq_some_iff {a : Attempt} {id : Nat} :
    a.open? = some id ↔ a.closed = false ∧ a.connection = some id := by
  unfold open?
  cases a.closed <;> simp

namespace Peer

/-- The connections that are open among the records after the first `n`. -/
def openSince (p : Peer) (n : Nat) : List Nat :=
  (p.attempts.drop n).filterMap (·.open?)

/-- The connection of one record, while it is open. -/
def openAt? (p : Peer) (k : Nat) : Option Nat :=
  p.attempts[k]?.bind (·.open?)

variable {p q : Peer} {n k id : Nat}

theorem openSince_length (p : Peer) : p.openSince p.attempts.length = [] := by
  simp [openSince]

theorem openSince_append {before : List Attempt} {a : Attempt} (h : q.attempts = before ++ [a])
    (hp : p.attempts = before) (hn : n ≤ before.length) :
    q.openSince n = p.openSince n ++ a.open?.toList := by
  rw [openSince, openSince, h, hp, List.drop_append_of_le_length hn, List.filterMap_append]
  cases hopen : a.open? <;> simp [hopen]

theorem openAt?_of_openSince (h : p.openSince n = []) (hk : n ≤ k) : p.openAt? k = none := by
  unfold openAt?
  cases ha : p.attempts[k]? with
  | none => rfl
  | some a =>
    have hmem : a ∈ p.attempts.drop n := by
      apply List.mem_of_getElem? (i := k - n)
      rw [List.getElem?_drop, Nat.add_sub_cancel' hk, ha]
    exact List.filterMap_eq_nil_iff.1 h a hmem

theorem openAt?_close {c : Connection} :
    (p.close c).2.openAt? k = if c.attempt = k then none else p.openAt? k := by
  simp only [openAt?, close, record, List.getElem?_modify]
  split
  · cases p.attempts[k]? <;> rfl
  · simp

/-- Among the records after the first `n`, only the last one is open, that of the connection. -/
structure OpensLast (p : Peer) (n : Nat) (c : Connection) (before : Peer) (a : Attempt) :
    Prop where
  recording : p.Recording c before.attempts a
  later : n ≤ before.attempts.length
  closed : before.openSince n = []
  opened : a.open? = some c.id

namespace OpensLast

variable {c : Connection} {before : Peer} {a : Attempt}

theorem openSince (h : p.OpensLast n c before a) : p.openSince n = [c.id] := by
  rw [openSince_append h.recording.attempts rfl h.later, h.closed, h.opened]
  rfl

theorem getLast? (h : p.OpensLast n c before a) :
    ∃ a, p.attempts.getLast? = some a ∧ a.connection = some c.id ∧ a.closed = false := by
  obtain ⟨hopen, hid⟩ := Attempt.open?_eq_some_iff.1 h.opened
  exact ⟨a, by rw [h.recording.attempts, List.getLast?_concat], hid, hopen⟩

theorem close (h : p.OpensLast n c before a) : (p.close c).2.openSince n = [] := by
  rw [openSince_append h.recording.close.attempts rfl h.later, h.closed]
  rfl

theorem openAt?_iff (h : p.OpensLast n c before a) (hk : n ≤ k) :
    p.openAt? k = some id ↔ c.attempt = k ∧ c.id = id := by
  have hclosed : before.openAt? k = none := openAt?_of_openSince h.closed hk
  rw [h.recording.place]
  unfold openAt? at hclosed ⊢
  rw [h.recording.attempts]
  rcases Nat.lt_trichotomy k before.attempts.length with hlt | rfl | hgt
  · rw [List.getElem?_append_left hlt, hclosed]
    simp only [reduceCtorEq, false_iff]
    omega
  · simp [h.opened]
  · rw [List.getElem?_eq_none (by rw [List.length_append]; exact hgt)]
    simp only [Option.bind_none, reduceCtorEq, false_iff]
    omega

end OpensLast

/-! ## Numbers -/

/-- The connections of the records, in the order in which they were given out. -/
def ids (p : Peer) : List Nat :=
  p.attempts.filterMap (·.connection)

/-- Between these peers the connections were numbered on, without a gap. -/
def NumbersOn (p q : Peer) : Prop :=
  ∃ k, q.connected = p.connected + k ∧ q.ids = p.ids ++ List.range' (p.connected + 1) k

theorem NumbersOn.trans {r : Peer} (hpq : NumbersOn p q) (hqr : NumbersOn q r) :
    NumbersOn p r := by
  obtain ⟨j, hconnected, hids⟩ := hpq
  obtain ⟨k, hconnected', hids'⟩ := hqr
  refine ⟨j + k, by omega, ?_⟩
  rw [hids', hids, hconnected, List.append_assoc, Nat.add_right_comm, List.range'_append_1]

theorem ids_eq_of_headings (p : Peer) : p.ids = p.headings.filterMap (·.connection) := by
  rw [ids, headings, List.filterMap_map]
  rfl

theorem SameAcquisitions.numbersOn (h : SameAcquisitions p q) : NumbersOn p q := by
  refine ⟨0, h.connected, ?_⟩
  rw [ids_eq_of_headings, ids_eq_of_headings, h.headings]
  simp

theorem numbersOn_acquire (p : Peer) (target : Descriptor) :
    NumbersOn p (p.acquire target).2 := by
  rcases acquire_cases p target with ⟨-, h⟩ | ⟨x, -, -, ⟨f, -, h⟩ | ⟨-, h⟩⟩
  · exact ⟨0, by rw [h]; rfl, by rw [h]; simp [ids, afterAcquisition]⟩
  · exact ⟨1, by rw [h]; rfl, by rw [h]; simp [ids, afterAcquisition]⟩
  · exact ⟨1, by rw [h]; rfl, by rw [h]; simp [ids, afterAcquisition]⟩

end Peer

namespace Executor

variable {e e₁ : Executor} {c : Connection} {request : Descriptor} {content : Content}
  {patience : Duration} {n : Nat}

/-! ## Moments -/

/-- The executors that an attempt passes through, stage by stage. -/
inductive Passes (e : Executor) (patience : Duration) (request : Descriptor) (content : Content) :
    Executor → Prop
  | start : Passes e patience request content e
  | acquired : Passes e patience request content (e.acquire request).2
  | attached {c : Connection} {e₁ : Executor} (acquire : e.acquire request = (.ok c, e₁)) :
    Passes e patience request content (e₁.attach c request).2
  | written {c c₂ : Connection} {e₁ e₂ : Executor} (acquire : e.acquire request = (.ok c, e₁))
    (attach : e₁.attach c request = (.ok c₂, e₂)) :
    Passes e patience request content (e₂.write c₂ request content).2
  | ended : Passes e patience request content (e.attempt patience request content).2

/-- What an attempt has added so far is one record at most. -/
theorem attempts_of_passes {m : Executor} (h : e.Passes patience request content m) :
    m.peer.attempts = e.peer.attempts ∨ ∃ a, m.peer.attempts = e.peer.attempts ++ [a] := by
  cases h with
  | start => exact .inl rfl
  | acquired =>
    rcases hacquire : e.acquire request with ⟨f | c, e₁⟩
    · obtain ⟨-, -, -, connected, a, -, rfl⟩ := acquire_eq_error hacquire
      exact .inr ⟨a, rfl⟩
    · obtain ⟨-, -, hrecord⟩ := told_of_acquire hacquire
      exact .inr ⟨_, hrecord.attempts⟩
  | attached acquire =>
    obtain ⟨hnone, -, hrecord⟩ := told_of_acquire acquire
    rename_i c e₁
    rcases hattach : e₁.attach c request with ⟨f | c₂, e₂⟩
    · obtain ⟨-, hpeer, -⟩ := attach_eq_error hattach
      exact .inr ⟨_, (congrArg Peer.attempts hpeer).trans hrecord.attempts⟩
    · obtain ⟨context, -, -, -, hattached⟩ := attach_eq_ok hattach hnone hrecord
      exact .inr ⟨_, hattached.attempts⟩
  | written acquire attach =>
    obtain ⟨hnone, -, hrecord⟩ := told_of_acquire acquire
    obtain ⟨context, frames, error, -, -, -, -, hwritten⟩ :=
      tells_of_attach attach content hnone hrecord
    exact .inr ⟨_, hwritten.attempts⟩
  | ended => exact .inr (attempts_of_attempt e patience request content)

/-- At any moment of an attempt there is at most one open record more than before it. -/
theorem length_openSince_of_passes {m : Executor} (h : e.Passes patience request content m)
    (hn : n ≤ e.peer.attempts.length) :
    (m.peer.openSince n).length ≤ (e.peer.openSince n).length + 1 := by
  rcases attempts_of_passes h with hsame | ⟨a, ha⟩
  · simp [Peer.openSince, hsame]
  · rw [Peer.openSince_append ha rfl hn, List.length_append]
    cases a.open? <;> simp

/-! ## The end of an attempt -/

/-- An attempt that brings a response leaves its connection open, and any other one leaves none. -/
theorem open_of_attempt (e : Executor) (patience : Duration) (request : Descriptor)
    (content : Content) :
    ∃ a, (e.attempt patience request content).2.peer.attempts = e.peer.attempts ++ [a] ∧
      ((∀ r, (e.attempt patience request content).1 ≠ .done r) → a.open? = none) ∧
      ∀ r, (e.attempt patience request content).1 = .done r →
        a.open? = some r.connection.id ∧ r.connection.attempt = e.peer.attempts.length := by
  rcases hacquire : e.acquire request with ⟨f | c, e₁⟩
  · obtain ⟨-, -, -, connected, a, hunacquired, rfl⟩ := acquire_eq_error hacquire
    simp only [attempt, hacquire]
    refine ⟨a, rfl, fun _ => ?_, by simp⟩
    cases hunacquired <;> rfl
  · obtain ⟨control, frames, error, h⟩ := transcript hacquire patience content
    refine ⟨_, h.attempts, fun hending => ?_, fun r hr => ?_⟩
    · generalize (e.attempt patience request content).1 = ending at hending
      cases ending with
      | done r => exact absurd rfl (hending r)
      | failed f | abandoned => rfl
    · obtain ⟨hid, hplace, -⟩ := h.response r hr
      rw [hr, hid]
      exact ⟨rfl, hplace⟩

namespace Leg

variable {l l' m : Leg} {k : Nat}

/-- At the beginning of every leg all connections of the execution are closed. -/
theorem openSince_of_leg (hk : (l.legs patience)[k]? = some m) :
    l.executor.peer.attempts.length ≤ m.executor.peer.attempts.length ∧
      m.executor.peer.openSince l.executor.peer.attempts.length = [] := by
  refine forall_legs (P := fun _ m =>
    l.executor.peer.attempts.length ≤ m.executor.peer.attempts.length ∧
      m.executor.peer.openSince l.executor.peer.attempts.length = []) ?_ ?_ k m hk
  · exact ⟨Nat.le_refl _, Peer.openSince_length _⟩
  · rintro k m m' ⟨hle, hclosed⟩ hnext
    obtain ⟨r, e, target, hattempt, -⟩ := next?_eq_some_iff.1 hnext
    obtain ⟨c, e₁, hacquire⟩ := acquire_of_attempt hattempt
    obtain ⟨control, frames, error, -, -, hattempts⟩ := transcript_after hacquire patience
    rw [after_of_next?_eq_some hnext, hnext] at hattempts
    constructor
    · rw [hattempts, List.length_append]
      omega
    · rw [Peer.openSince_append hattempts rfl hle, hclosed]
      rfl

/-- An execution that delivers a response leaves its connection open, the last one, and no other.
Any other execution leaves none. -/
theorem openSince_execute (patience : Duration) (l : Leg) :
    ((∀ r, (l.execute patience).1 ≠ .done r) →
      (l.execute patience).2.peer.openSince l.executor.peer.attempts.length = []) ∧
    ∀ r, (l.execute patience).1 = .done r → ∃ before a,
      (l.execute patience).2.peer.OpensLast l.executor.peer.attempts.length r.connection
        before a := by
  obtain ⟨k, m, hk, hlast⟩ := exists_last patience l
  obtain ⟨-, hexecute⟩ := execute_of_last hk hlast
  obtain ⟨hle, hclosed⟩ := openSince_of_leg hk
  obtain ⟨a, hattempts, hfailed, hdone⟩ :=
    open_of_attempt m.executor patience m.request m.content
  rw [hexecute]
  constructor
  · intro hending
    rw [attempt, Peer.openSince_append hattempts rfl hle, hclosed, hfailed hending]
    rfl
  · intro r hr
    obtain ⟨hopen, hplace⟩ := hdone r hr
    exact ⟨m.executor.peer, a, ⟨hattempts, hplace⟩, hle, hclosed, hopen⟩

/-- After an execution a record is open just if it was open before, or is that of the response. -/
theorem openAt?_execute (patience : Duration) (l : Leg) (k id : Nat) :
    (l.execute patience).2.peer.openAt? k = some id ↔ l.executor.peer.openAt? k = some id ∨
      ∃ r, (l.execute patience).1 = .done r ∧ r.connection.attempt = k ∧ r.connection.id = id := by
  obtain ⟨hfailed, hdone⟩ := openSince_execute patience l
  rcases Nat.lt_or_ge k l.executor.peer.attempts.length with hlt | hge
  · have hsame : (l.execute patience).2.peer.openAt? k = l.executor.peer.openAt? k := by
      obtain ⟨rest, hrest⟩ := prefix_execute patience l
      rw [Peer.openAt?, Peer.openAt?, ← hrest, List.getElem?_append_left hlt]
    rw [hsame]
    refine ⟨.inl, ?_⟩
    rintro (h | ⟨r, hr, rfl, -⟩)
    · exact h
    · obtain ⟨before, a, h⟩ := hdone r hr
      have hlater := h.later
      rw [h.recording.place] at hlt
      omega
  · have hnone : l.executor.peer.openAt? k = none := by
      rw [Peer.openAt?, List.getElem?_eq_none hge]
      rfl
    rw [hnone]
    cases hending : (l.execute patience).1 with
    | done r =>
      obtain ⟨before, a, h⟩ := hdone r hending
      simp [h.openAt?_iff hge]
    | failed f | abandoned =>
      simp [Peer.openAt?_of_openSince (hfailed (by simp [hending])) hge]

theorem numbersOn_after (patience : Duration) (l : Leg) :
    Peer.NumbersOn l.executor.peer (l.after patience).peer := by
  have hacquire : Peer.NumbersOn l.executor.peer (l.executor.acquire l.request).2.peer :=
    Peer.numbersOn_acquire l.executor.peer l.request
  have hcourse : SameCourse (l.executor.acquire l.request).2 (l.attempt patience).2 :=
    sameCourse_attempt
  have hattempt := hacquire.trans hcourse.peer.numbersOn
  rcases after_cases patience l with ⟨-, hafter⟩ | ⟨r, e, l', -, hr, hafter⟩
  · rwa [hafter]
  · rw [hr] at hattempt
    rw [hafter]
    exact hattempt.trans sameCourse_close.peer.numbersOn

/-- An execution numbers its connections on. -/
theorem numbersOn_execute (patience : Duration) (l : Leg) :
    Peer.NumbersOn l.executor.peer (l.execute patience).2.peer := by
  fun_induction legs patience l with
  | case1 l l' hnext ih =>
    rw [execute_of_next?_eq_some hnext]
    refine Peer.NumbersOn.trans ?_ ih
    rw [← after_of_next?_eq_some hnext]
    exact numbersOn_after patience l
  | case2 l hnext =>
    rw [execute_of_next?_eq_none hnext, ← after_of_next?_eq_none hnext]
    exact numbersOn_after patience l

end Leg

end Executor

end Courier
