import Courier.Proofs.Executor.Connections
import Courier.Proofs.Response
import Mathlib.Data.List.Nodup

/-!
# Sessions

A session is a history of executions with several peers, one after the other, in which responses are
read and dropped in between. The peers number their connections together. At any time the open
connections are those of the responses that are held, and no number is given out twice.
-/

namespace Courier

/-- Peers that number their connections together, and the responses that are held, each with the
peer that it came from. -/
structure Session where
  peers : Nat → Peer
  connected : Nat
  held : List (Nat × Response)

namespace Session

/-- A peer as an executor finds it. -/
def peer (s : Session) (i : Nat) : Peer :=
  { s.peers i with connected := s.connected }

/-- The session in which a peer has changed. -/
def put (s : Session) (i : Nat) (p : Peer) : Session :=
  { s with
    peers := fun j => if j = i then p else s.peers j
    connected := p.connected }

/-- The response of an execution, if it delivers one. -/
def delivered : Ending Response → List Response
  | .done r => [r]
  | .failed _ | .abandoned => []

/-- The session after an execution with a peer. -/
def executed (s : Session) (i : Nat) (result : Ending Response × Executor) : Session :=
  { s.put i result.2.peer with
    held := s.held ++ (delivered result.1).map fun r => (i, r) }

/-- The sessions that executions, readings and drops lead to. -/
inductive Reached : Session → Prop
  | start {peers : Nat → Peer} (fresh : ∀ i, (peers i).attempts = []) :
    Reached { peers, connected := 0, held := [] }
  | execute {s : Session} {i : Nat} {e : Executor} (before : Reached s) (peer : e.peer = s.peer i)
    (patience : Duration) (request : Descriptor) (content : Content) (budget : Redirect.Budget) :
    Reached (s.executed i (e.execute patience request content budget))
  | read {s : Session} {i : Nat} {r : Response} {front back : List (Nat × Response)}
    (before : Reached s) (holds : s.held = front ++ (i, r) :: back) :
    Reached { s with held := front ++ (i, r.nextChunk.2) :: back }
  | drop {s : Session} {i : Nat} {r : Response} {front back : List (Nat × Response)}
    (before : Reached s) (holds : s.held = front ++ (i, r) :: back) :
    Reached { s.put i ((s.peer i).close r.connection).2 with held := front ++ back }

/-! ## Numbers -/

variable {s : Session} {i : Nat} {p : Peer} {r : Response} {front back : List (Nat × Response)}

theorem peers_put_self : (s.put i p).peers i = p := if_pos rfl

theorem peers_put_of_ne {j : Nat} (h : j ≠ i) : (s.put i p).peers j = s.peers j := if_neg h

/-- No connection of a session has the number of another one. -/
structure Numbered (s : Session) : Prop where
  counted : ∀ i, ∀ id ∈ (s.peers i).ids, id ≤ s.connected
  distinct : ∀ i, (s.peers i).ids.Nodup
  apart : ∀ i j, i ≠ j → ∀ id ∈ (s.peers i).ids, id ∉ (s.peers j).ids

/-- Connections that are numbered on get new numbers. -/
theorem Numbered.put (h : s.Numbered) (hp : Peer.NumbersOn (s.peer i) p) :
    (s.put i p).Numbered := by
  obtain ⟨n, hconnected, hids⟩ := hp
  change p.connected = s.connected + n at hconnected
  change p.ids = (s.peers i).ids ++ List.range' (s.connected + 1) n at hids
  have hnew : ∀ id ∈ List.range' (s.connected + 1) n, ∀ j, id ∉ (s.peers j).ids := by
    intro id hid j hold
    have hle := h.counted j id hold
    have hge := (List.mem_range'_1.1 hid).1
    omega
  have hapart : ∀ j, j ≠ i → ∀ id ∈ p.ids, id ∉ (s.peers j).ids := by
    intro j hj id hid
    rw [hids] at hid
    rcases List.mem_append.1 hid with hold | hid
    · exact h.apart i j hj.symm id hold
    · exact hnew id hid j
  refine ⟨?_, ?_, ?_⟩
  · intro j id hid
    change id ≤ p.connected
    rw [hconnected]
    by_cases hj : j = i
    · subst hj
      rw [peers_put_self, hids] at hid
      rcases List.mem_append.1 hid with hold | hid
      · exact Nat.le_add_right_of_le (h.counted j id hold)
      · have hlt := (List.mem_range'_1.1 hid).2
        omega
    · rw [peers_put_of_ne hj] at hid
      exact Nat.le_add_right_of_le (h.counted j id hid)
  · intro j
    by_cases hj : j = i
    · subst hj
      rw [peers_put_self, hids, List.nodup_append]
      exact ⟨h.distinct j, List.nodup_range' 1,
        fun id hold id' hid heq => hnew id' hid j (heq ▸ hold)⟩
    · rw [peers_put_of_ne hj]
      exact h.distinct j
  · intro j k hjk id hj
    by_cases hji : j = i
    · subst hji
      rw [peers_put_self] at hj
      rw [peers_put_of_ne hjk.symm]
      exact hapart k hjk.symm id hj
    · rw [peers_put_of_ne hji] at hj
      by_cases hki : k = i
      · subst hki
        rw [peers_put_self]
        exact fun hk => hapart j hji id hk hj
      · rw [peers_put_of_ne hki]
        exact h.apart j k hjk id hj

theorem numbered_of_reached (h : s.Reached) : s.Numbered := by
  induction h with
  | start fresh =>
    rename_i peers
    have hids : ∀ i, (peers i).ids = [] := fun i => by rw [Peer.ids, fresh i]; rfl
    exact ⟨by simp [hids], by simp [hids], by simp [hids]⟩
  | @execute s i e before peer patience request content budget ih =>
    have hnumbers := Executor.Leg.numbersOn_execute patience (.mk e request content budget)
    rw [peer] at hnumbers
    obtain ⟨hcounted, hdistinct, hapart⟩ := ih.put hnumbers
    exact ⟨hcounted, hdistinct, hapart⟩
  | read before holds ih => exact ⟨ih.counted, ih.distinct, ih.apart⟩
  | drop before holds ih =>
    obtain ⟨hcounted, hdistinct, hapart⟩ := ih.put Peer.sameAcquisitions_close.numbersOn
    exact ⟨hcounted, hdistinct, hapart⟩

/-- As long as fewer connections were given out than a word of 64 bits has values, their numbers are
told apart in such words too. -/
theorem Numbered.words (h : s.Numbered) (hroom : s.connected < UInt64.size) :
    (∀ i, ((s.peers i).ids.map UInt64.ofNat).Nodup) ∧
    ∀ i j, i ≠ j → ∀ id ∈ (s.peers i).ids, UInt64.ofNat id ∉ (s.peers j).ids.map UInt64.ofNat := by
  have hinj : ∀ i j, ∀ a ∈ (s.peers i).ids, ∀ b ∈ (s.peers j).ids,
      UInt64.ofNat a = UInt64.ofNat b → a = b := by
    intro i j a ha b hb heq
    have hless : a < UInt64.size := Nat.lt_of_le_of_lt (h.counted i a ha) hroom
    have hless' : b < UInt64.size := Nat.lt_of_le_of_lt (h.counted j b hb) hroom
    rw [← UInt64.toNat_ofNat_of_lt' hless, ← UInt64.toNat_ofNat_of_lt' hless', heq]
  constructor
  · intro i
    exact List.Nodup.map_on (hinj i i) (h.distinct i)
  · intro i j hij id hid hmem
    obtain ⟨id', hid', heq⟩ := List.mem_map.1 hmem
    exact h.apart i j hij id hid (hinj j i id' hid' id hid heq ▸ hid')

/-! ## Open connections -/

/-- The open connections of a session are those on which a response is held. -/
structure HoldsOpen (s : Session) : Prop where
  open_iff : ∀ i k id, (s.peers i).openAt? k = some id ↔
    ∃ r, (i, r) ∈ s.held ∧ r.connection.attempt = k ∧ r.connection.id = id
  places : (s.held.map fun x => (x.1, x.2.connection.attempt)).Nodup

theorem mem_delivered {ending : Ending Response} : r ∈ delivered ending ↔ ending = .done r := by
  cases ending <;> simp [delivered, eq_comm]

theorem HoldsOpen.place_lt (h : s.HoldsOpen) (hr : (i, r) ∈ s.held) :
    r.connection.attempt < (s.peers i).attempts.length := by
  have hopen := (h.open_iff i r.connection.attempt r.connection.id).2 ⟨r, hr, rfl, rfl⟩
  rw [Peer.openAt?] at hopen
  obtain ⟨a, ha, -⟩ := Option.bind_eq_some_iff.1 hopen
  exact (List.getElem?_eq_some_iff.1 ha).1

theorem HoldsOpen.executed (h : s.HoldsOpen) {e : Executor} (hpeer : e.peer = s.peer i)
    (patience : Duration) (request : Descriptor) (content : Content) (budget : Redirect.Budget) :
    (s.executed i (e.execute patience request content budget)).HoldsOpen := by
  have hopen : ∀ k id, (e.execute patience request content budget).2.peer.openAt? k = some id ↔
      (s.peers i).openAt? k = some id ∨
        ∃ r, (e.execute patience request content budget).1 = .done r ∧
          r.connection.attempt = k ∧ r.connection.id = id := by
    intro k id
    have hsame : (s.peers i).openAt? k = e.peer.openAt? k := by rw [hpeer]; rfl
    rw [hsame]
    exact Executor.Leg.openAt?_execute patience (.mk e request content budget) k id
  have hlater : ∀ r, (e.execute patience request content budget).1 = .done r →
      (s.peers i).attempts.length ≤ r.connection.attempt := by
    intro r hr
    have hdone := (Executor.Leg.openSince_execute patience (.mk e request content budget)).2
    obtain ⟨before, a, hlast⟩ := hdone r hr
    have hlength : (s.peers i).attempts.length = e.peer.attempts.length := by rw [hpeer]; rfl
    rw [hlast.recording.place, hlength]
    exact hlast.later
  generalize e.execute patience request content budget = result at hopen hlater ⊢
  constructor
  · intro j k id
    dsimp only [Session.executed]
    by_cases hj : j = i
    · subst hj
      rw [peers_put_self, hopen, h.open_iff]
      simp [mem_delivered, or_and_right, exists_or]
    · rw [peers_put_of_ne hj, h.open_iff]
      simp [Ne.symm hj]
  · dsimp only [Session.executed]
    rw [List.map_append, List.nodup_append]
    refine ⟨h.places, ?_, ?_⟩
    · cases result.1 <;> simp [delivered]
    · rintro place hold _ hnew rfl
      obtain ⟨⟨j, r⟩, hr, rfl⟩ := List.mem_map.1 hold
      obtain ⟨r', hr', hi, hplace⟩ : ∃ r', result.1 = .done r' ∧ i = j ∧
          r'.connection.attempt = r.connection.attempt := by
        simpa [mem_delivered] using hnew
      subst hi
      have hlt := h.place_lt hr
      have hge := hlater r' hr'
      omega

theorem HoldsOpen.read (h : s.HoldsOpen) (holds : s.held = front ++ (i, r) :: back) :
    HoldsOpen { s with held := front ++ (i, r.nextChunk.2) :: back } := by
  obtain ⟨messages, hconnection⟩ := r.connection_nextChunk
  constructor
  · intro j k id
    rw [h.open_iff, holds]
    simp [hconnection, or_and_right, exists_or, and_assoc]
  · have hplaces := h.places
    rw [holds] at hplaces
    simpa [hconnection] using hplaces

theorem HoldsOpen.drop (h : s.HoldsOpen) (holds : s.held = front ++ (i, r) :: back) :
    HoldsOpen { s.put i ((s.peer i).close r.connection).2 with held := front ++ back } := by
  have hplaces := h.places
  rw [holds, List.map_append, List.map_cons, List.perm_middle.nodup_iff, List.nodup_cons,
    ← List.map_append] at hplaces
  obtain ⟨hnot, hrest⟩ := hplaces
  refine ⟨fun j k id => ?_, hrest⟩
  dsimp only
  by_cases hj : j = i
  · subst hj
    rw [peers_put_self, Peer.openAt?_close]
    split
    · next hplace =>
      refine iff_of_false nofun ?_
      rintro ⟨r', hr', hk, -⟩
      exact hnot (List.mem_map.2 ⟨(j, r'), hr', by rw [hk, hplace]⟩)
    · next hplace =>
      have hold := h.open_iff j k id
      rw [holds] at hold
      refine hold.trans ?_
      have hother : ∀ r', r'.connection.attempt = k → ((j, r') ∈ front ++ (j, r) :: back ↔
          (j, r') ∈ front ++ back) := by
        intro r' hk
        have hne : r' ≠ r := fun heq => hplace (heq ▸ hk)
        simp [hne]
      constructor
      · rintro ⟨r', hr', hk, hid⟩
        exact ⟨r', (hother r' hk).1 hr', hk, hid⟩
      · rintro ⟨r', hr', hk, hid⟩
        exact ⟨r', (hother r' hk).2 hr', hk, hid⟩
  · rw [peers_put_of_ne hj, h.open_iff, holds]
    simp [hj]

theorem holdsOpen_of_reached (h : s.Reached) : s.HoldsOpen := by
  induction h with
  | start fresh => exact ⟨by simp [Peer.openAt?, fresh], by simp⟩
  | execute before peer patience request content budget ih => exact ih.executed peer _ _ _ _
  | read before holds ih => exact ih.read holds
  | drop before holds ih => exact ih.drop holds

/-! ## Executions of a session -/

/-- **Connections of an execution.** In any session, when an execution acquires a connection, all
that it acquired before are closed, and at no moment does it have two open ones. If it delivers no
response, then it leaves none open. If it delivers one, then it leaves open the last connection that
it acquired, that of the response, and dropping the response closes it. After the execution the open
connections of the session are those of the responses that are held, and all connections of all
executions have different numbers. -/
theorem connections_of_execute (hs : s.Reached) {e : Executor} (hpeer : e.peer = s.peer i)
    (patience : Duration) (request : Descriptor) (content : Content) (budget : Redirect.Budget) :
    (∀ (k : Nat) (l : Executor.Leg),
      ((Executor.Leg.mk e request content budget).legs patience)[k]? = some l →
      l.executor.peer.openSince e.peer.attempts.length = [] ∧
      ∀ m, l.executor.Passes patience l.request l.content m →
        (m.peer.openSince e.peer.attempts.length).length ≤ 1) ∧
    ((∀ r, (e.execute patience request content budget).1 ≠ .done r) →
      (e.execute patience request content budget).2.peer.openSince e.peer.attempts.length = []) ∧
    (∀ r, (e.execute patience request content budget).1 = .done r →
      let p := (e.execute patience request content budget).2.peer
      p.openSince e.peer.attempts.length = [r.connection.id] ∧
      (∃ a, p.attempts.getLast? = some a ∧ a.connection = some r.connection.id ∧
        a.closed = false) ∧
      (p.close r.connection).2.openSince e.peer.attempts.length = []) ∧
    let t := s.executed i (e.execute patience request content budget)
    (∀ j k id, (t.peers j).openAt? k = some id ↔
      ∃ r, (j, r) ∈ t.held ∧ r.connection.attempt = k ∧ r.connection.id = id) ∧
    (∀ j, (t.peers j).ids.Nodup) ∧
    ∀ j k, j ≠ k → ∀ id ∈ (t.peers j).ids, id ∉ (t.peers k).ids := by
  have ht := hs.execute hpeer patience request content budget
  obtain ⟨hfailed, hdone⟩ :=
    Executor.Leg.openSince_execute patience (.mk e request content budget)
  refine ⟨?_, hfailed, ?_, (holdsOpen_of_reached ht).open_iff, (numbered_of_reached ht).distinct,
    (numbered_of_reached ht).apart⟩
  · intro k l hk
    obtain ⟨hle, hclosed⟩ := Executor.Leg.openSince_of_leg hk
    refine ⟨hclosed, fun m hm => ?_⟩
    have hmost := Executor.length_openSince_of_passes hm hle
    rwa [hclosed] at hmost
  · intro r hr
    obtain ⟨before, a, h⟩ := hdone r hr
    exact ⟨h.openSince, h.getLast?, h.close⟩

theorem connections_of_numbered :
    ∃ r p, (Executor.numbered.execute .zero {} {} (Redirect.Limit.max 2).budget).1 = .done r ∧
      p = (Executor.numbered.execute .zero {} {} (Redirect.Limit.max 2).budget).2.peer ∧
      p.openSince 0 = [r.connection.id] ∧ (p.close r.connection).2.openSince 0 = [] := by
  obtain ⟨k, l, hk, hlast⟩ := Executor.Leg.exists_last .zero
    (.mk Executor.numbered {} {} (Redirect.Limit.max 2).budget)
  obtain ⟨r, e, hdone⟩ :=
    Executor.sound_numbered.forall_done .zero l (List.mem_of_getElem? hk)
  have hexecute := (Executor.Leg.execute_of_last hk hlast).2.trans hdone
  have hr : (Executor.numbered.execute .zero {} {} (Redirect.Limit.max 2).budget).1 = .done r :=
    congrArg Prod.fst hexecute
  have hreached :
      Reached { peers := fun _ => Executor.numbered.peer, connected := 0, held := [] } :=
    .start fun _ => rfl
  obtain ⟨-, -, hopen, -⟩ := connections_of_execute (i := 0) (e := Executor.numbered) hreached rfl
    .zero {} {} (Redirect.Limit.max 2).budget
  obtain ⟨honly, -, hdropped⟩ := hopen r hr
  exact ⟨r, _, hr, rfl, honly, hdropped⟩

end Session

end Courier
