import Courier.Peer

/-!
# What a peer keeps

Acquiring is the only operation that takes an exchange from the script and adds a record. Every
operation on a connection leaves the script, the number of connections, and the heading of each
record as they were, and a heading says what was asked for and which connection was given.
-/

namespace Courier

/-! ## Scripts -/

namespace Script

/-- The exchange for the acquisition that comes after `k` others. -/
def exchange? : Script → Nat → Option Exchange
  | list exchanges, k => exchanges[k]?
  | always exchange, _ => some exchange

theorem exchange?_zero (s : Script) : s.exchange? 0 = s.next.1 := by
  cases s with
  | list exchanges => cases exchanges <;> rfl
  | always exchange => rfl

theorem exchange?_succ (s : Script) (k : Nat) : s.exchange? (k + 1) = s.next.2.exchange? k := by
  cases s with
  | list exchanges => cases exchanges <;> simp [exchange?, next]
  | always exchange => rfl

end Script

/-- The head that an exchange answers with, if that is what it does first. -/
def Exchange.head? (x : Exchange) : Option ResponseHead :=
  match x.conduct.messages with
  | .ok (.head head) :: _ => some head
  | _ => none

/-! ## Records -/

/-- What a record says from its beginning on: the request, and the connection that was given. -/
structure Heading where
  target : Descriptor
  connection : Option Nat
deriving DecidableEq

def Attempt.heading (a : Attempt) : Heading :=
  { target := a.target, connection := a.connection }

namespace Peer

/-- The headings of the records. -/
def headings (p : Peer) : List Heading :=
  p.attempts.map (·.heading)

/-- Two peers between which there was no acquisition. -/
structure SameAcquisitions (p q : Peer) : Prop where
  script : q.script = p.script
  connected : q.connected = p.connected
  headings : q.headings = p.headings

namespace SameAcquisitions

theorem refl (p : Peer) : SameAcquisitions p p := ⟨rfl, rfl, rfl⟩

theorem trans {p q r : Peer} (hpq : SameAcquisitions p q) (hqr : SameAcquisitions q r) :
    SameAcquisitions p r :=
  ⟨hqr.script.trans hpq.script, hqr.connected.trans hpq.connected,
    hqr.headings.trans hpq.headings⟩

end SameAcquisitions

variable {p : Peer} {c : Connection}

theorem sameAcquisitions_record {change : Attempt → Attempt}
    (hchange : ∀ a, (change a).heading = a.heading) : SameAcquisitions p (p.record c change) := by
  refine ⟨rfl, rfl, ?_⟩
  simp only [headings, record]
  apply List.ext_getElem?
  intro k
  simp only [List.getElem?_map, List.getElem?_modify]
  cases p.attempts[k]? with
  | none => rfl
  | some a =>
    by_cases hk : c.attempt = k
    · simp [hk, hchange]
    · simp [hk]

theorem sameAcquisitions_close : SameAcquisitions p (p.close c).2 :=
  sameAcquisitions_record fun _ => rfl

theorem sameAcquisitions_fire {context : Context} : SameAcquisitions p (p.fire c context).2 := by
  unfold fire
  split
  · exact .refl p
  · exact .refl p
  · exact sameAcquisitions_record fun _ => rfl

theorem sameAcquisitions_attach {context : Context} :
    SameAcquisitions p (p.attach c context).2 := by
  have hfire : SameAcquisitions p (p.fire c context).2 := sameAcquisitions_fire
  unfold attach
  split <;> next h => simpa [h] using hfire

theorem sameAcquisitions_writeFrames {frames : List FramePoll} :
    SameAcquisitions p (p.writeFrames c frames).2 := by
  fun_induction writeFrames p c frames with
  | case1 p => exact .refl p
  | case2 p rest => exact .refl p
  | case3 p f rest hconduct => exact sameAcquisitions_record fun _ => rfl
  | case4 p f rest hconduct p' hlast => exact sameAcquisitions_record fun _ => rfl
  | case5 p f rest q hlast hconduct ih =>
    have hq : SameAcquisitions p q := sameAcquisitions_record fun _ => rfl
    exact hq.trans ih
  | case6 p e rest hconduct => exact sameAcquisitions_record fun _ => rfl
  | case7 p e rest hconduct => exact sameAcquisitions_record fun _ => rfl

theorem sameAcquisitions_write {frames : List FramePoll} :
    SameAcquisitions p (p.write c frames).2 := by
  unfold write
  split
  · exact .refl p
  · exact sameAcquisitions_writeFrames

/-! ## Acquisitions -/

/-- The connection that plays an exchange for the next record. -/
def connectionFor (p : Peer) (x : Exchange) : Connection :=
  { id := p.connected + 1, attempt := p.attempts.length, exchange := x,
    messages := x.conduct.messages }

/-- The peer after an acquisition that added this record. -/
def afterAcquisition (p : Peer) (connected : Nat) (record : Attempt) : Peer :=
  { p with script := p.script.next.2, connected, attempts := p.attempts ++ [record] }

theorem modify_length_append {α : Type} (l : List α) (a : α) (change : α → α) :
    (l ++ [a]).modify l.length change = l ++ [change a] := by
  induction l with
  | nil => rfl
  | cons b l ih => simpa using ih

/-- All that an acquisition can do: it is refused without a connection, or it gives out a
connection and fails, so that the connection is closed again, or it gives out a connection. -/
theorem acquire_cases (p : Peer) (target : Descriptor) :
    ((∀ x, p.script.next.1 = some x → x.conduct = .refuse) ∧
      p.acquire target = (.error (hangUp .connect),
        p.afterAcquisition p.connected { target, connection := none })) ∨
    ∃ x, p.script.next.1 = some x ∧ x.conduct ≠ .refuse ∧
      ((∃ f, x.acquireFailure = some f ∧ p.acquire target = (.error f,
        p.afterAcquisition (p.connected + 1)
          { target, connection := some (p.connected + 1), closed := true })) ∨
      (x.acquireFailure = none ∧ p.acquire target = (.ok (p.connectionFor x),
        p.afterAcquisition (p.connected + 1)
          { target, connection := some (p.connected + 1) }))) := by
  cases hx : p.script.next.1 with
  | none =>
    refine .inl ⟨by simp, ?_⟩
    simp [acquire, hx, afterAcquisition]
  | some x =>
    by_cases hc : x.conduct = .refuse
    · refine .inl ⟨by simpa using hc, ?_⟩
      simp only [acquire, hx, hc, afterAcquisition]
    · refine .inr ⟨x, rfl, hc, ?_⟩
      have hconnect : p.acquire target =
          ({ p with script := p.script.next.2 } : Peer).connect target x := by
        simp only [acquire, hx]
      cases hf : x.acquireFailure with
      | some f =>
        refine .inl ⟨f, rfl, ?_⟩
        simp [hconnect, connect, hf, close, record, afterAcquisition, modify_length_append]
      | none =>
        refine .inr ⟨rfl, ?_⟩
        simp [hconnect, connect, hf, afterAcquisition, connectionFor]

/-- An acquisition takes one exchange and adds one record, whatever comes of it. -/
theorem script_acquire (p : Peer) (target : Descriptor) :
    (p.acquire target).2.script = p.script.next.2 := by
  rcases acquire_cases p target with ⟨-, h⟩ | ⟨x, -, -, ⟨f, -, h⟩ | ⟨-, h⟩⟩ <;>
    simp [h, afterAcquisition]

theorem headings_acquire (p : Peer) (target : Descriptor) :
    ∃ connection, (p.acquire target).2.headings = p.headings ++ [⟨target, connection⟩] := by
  rcases acquire_cases p target with ⟨-, h⟩ | ⟨x, -, -, ⟨f, -, h⟩ | ⟨-, h⟩⟩ <;>
    simp [h, afterAcquisition, headings, Attempt.heading]

/-- A connection that is given out plays the exchange that the script has next. -/
theorem eq_connectionFor_of_acquire {target : Descriptor} (h : (p.acquire target).1 = .ok c) :
    ∃ x, p.script.next.1 = some x ∧ c = p.connectionFor x := by
  rcases acquire_cases p target with ⟨-, ha⟩ | ⟨x, hx, -, ⟨f, -, ha⟩ | ⟨-, ha⟩⟩
  · simp [ha] at h
  · simp [ha] at h
  · refine ⟨x, hx, ?_⟩
    simpa [ha, eq_comm] using h

/-- The identity of an attempt is kept with its connection, and changes nothing else there. -/
theorem eq_of_attach {c' : Connection} {context : Context} (h : (p.attach c context).1 = .ok c') :
    c' = { c with correlation := some context } := by
  unfold attach at h
  split at h
  · exact (Except.ok.inj h).symm
  · cases h

end Peer

/-! ## Readings -/

theorem Connection.messages_of_read {c d : Connection} {m : Inbound}
    (h : c.read = (.message m, d)) : c.messages = .ok m :: d.messages := by
  unfold read at h
  split at h <;> cases h
  next hm => exact hm

end Courier
