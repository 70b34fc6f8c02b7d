import Courier.Proofs.Peer

/-!
# Connections side by side

A peer serves any number of connections at once, and they may be used in any order. They share its
script and its records: a connection finds its record by the place that it was told when it was
acquired. Whatever the order, the connections do not get in each other's way. Each one plays an
exchange of its own, reads the messages of that exchange, and writes to a record that no other
connection changes.
-/

namespace Courier

/-! ## Readings -/

/-- What a message of an exchange is to its reader. -/
def Reading.ofMessage : Except Failure Inbound → Reading
  | .ok m => .message m
  | .error f => .failed f

/-- What an open connection reads after `n` readings before: the message whose turn it is, and the
end where there is none left. A silent peer lets every reader wait. -/
def Exchange.reading (x : Exchange) (n : Nat) : Reading :=
  match x.conduct with
  | .silent => .silence
  | _ => (x.conduct.messages[n]?.map Reading.ofMessage).getD .ended

namespace Connection

variable {c : Connection}

theorem read_of_closed (h : c.closed = true) : c.read = (.ended, c) := by
  simp only [read, h]

theorem read_of_open {n : Nat} (hopen : c.closed = false)
    (hmessages : c.messages = c.exchange.conduct.messages.drop n) :
    c.read = (c.exchange.reading n,
      { c with messages := c.exchange.conduct.messages.drop (n + 1) }) := by
  obtain ⟨id, attempt, exchange, messages, correlation, closed⟩ := c
  dsimp only at hopen hmessages ⊢
  subst hopen hmessages
  cases hconduct : exchange.conduct with
  | silent => simp [read, Exchange.reading, hconduct, Conduct.messages]
  | respond _ | refuse | rejectControl | failWrite =>
    simp only [Exchange.reading, hconduct, ← List.head?_drop, ← List.tail_drop]
    generalize List.drop n (Conduct.messages _) = left
    rcases left with _ | ⟨_ | _, rest⟩ <;> simp [read, hconduct, Reading.ofMessage]

end Connection

/-! ## Records -/

/-- A change to a record that touches neither its heading nor whether it is closed. -/
structure Attempt.Keeps (change : Attempt → Attempt) : Prop where
  heading : ∀ a, (change a).heading = a.heading
  closed : ∀ a, (change a).closed = a.closed

/-- The record of a connection that is closed. -/
def Attempt.shut (a : Attempt) : Attempt :=
  { a with closed := true }

theorem Attempt.keeps_id : Keeps id :=
  ⟨fun _ => rfl, fun _ => rfl⟩

theorem Attempt.Keeps.comp {f g : Attempt → Attempt} (hf : Keeps f) (hg : Keeps g) :
    Keeps (g ∘ f) :=
  ⟨fun a => (hg.heading (f a)).trans (hf.heading a),
    fun a => (hg.closed (f a)).trans (hf.closed a)⟩

namespace Peer

variable {p : Peer} {c : Connection}

theorem targets_eq (p : Peer) : p.attempts.map (·.target) = p.headings.map (·.target) := by
  rw [headings, List.map_map]
  rfl

theorem record_id : p.record c id = p := by
  rw [record, List.modify_id]

theorem record_record {f g : Attempt → Attempt} :
    (p.record c f).record c g = p.record c (g ∘ f) := by
  simp only [record, List.modify_modify_eq]

theorem exists_change_fire (p : Peer) (c : Connection) (context : Context) :
    ∃ change, (p.fire c context).2 = p.record c change ∧ Attempt.Keeps change := by
  unfold fire
  split
  · exact ⟨id, record_id.symm, Attempt.keeps_id⟩
  · exact ⟨id, record_id.symm, Attempt.keeps_id⟩
  · exact ⟨_, rfl, fun _ => rfl, fun _ => rfl⟩

theorem exists_change_writeFrames (p : Peer) (c : Connection) (polls : List FramePoll) :
    ∃ change, (p.writeFrames c polls).2 = p.record c change ∧ Attempt.Keeps change := by
  fun_induction writeFrames p c polls with
  | case1 p => exact ⟨id, record_id.symm, Attempt.keeps_id⟩
  | case2 p rest => exact ⟨id, record_id.symm, Attempt.keeps_id⟩
  | case5 p f rest q hlast hconduct ih =>
    obtain ⟨change, hrest, hkeeps⟩ := ih
    have hframe : Attempt.Keeps (·.sawFrame f) := ⟨fun _ => rfl, fun _ => rfl⟩
    exact ⟨change ∘ (·.sawFrame f), hrest.trans record_record, hframe.comp hkeeps⟩
  | case3 | case4 | case6 | case7 => exact ⟨_, rfl, fun _ => rfl, fun _ => rfl⟩

theorem exists_change_write (p : Peer) (c : Connection) (polls : List FramePoll) :
    ∃ change, (p.write c polls).2 = p.record c change ∧ Attempt.Keeps change := by
  unfold write
  split
  · exact ⟨id, record_id.symm, Attempt.keeps_id⟩
  · exact exists_change_writeFrames p c polls

/-! ## Acquisitions -/

/-- What an acquisition gets for its exchange: nothing if there is none or if it refuses, nothing if
it breaks off, and else a connection on which it is played. -/
def grant (p : Peer) : Option Exchange → Except Failure Connection
  | none => .error (hangUp .connect)
  | some x =>
    match x.conduct, x.acquireFailure with
    | .refuse, _ => .error (hangUp .connect)
    | _, some f => .error f
    | _, none => .ok (p.connectionFor x)

end Peer

theorem Peer.eq_of_grant {p : Peer} {x? : Option Exchange} {c : Connection}
    (h : p.grant x? = .ok c) : ∃ x, x? = some x ∧ c = p.connectionFor x := by
  unfold grant at h
  split at h
  · cases h
  · split at h
    · cases h
    · cases h
    · cases h
      exact ⟨_, rfl, rfl⟩

/-- An exchange that breaks off while its connection is acquired, so that nobody gets it. -/
def Exchange.BreaksOff (x : Exchange) : Prop :=
  x.conduct ≠ .refuse ∧ x.acquireFailure ≠ none

theorem Peer.acquire_eq (p : Peer) (target : Descriptor) :
    ∃ connected record,
      p.acquire target = (p.grant p.script.next.1, p.afterAcquisition connected record) ∧
      record.target = target ∧
      (record.closed = true ↔ ∃ x, p.script.next.1 = some x ∧ x.BreaksOff) := by
  rcases p.acquire_cases target with ⟨hrefuses, h⟩ | ⟨x, hx, hconduct, ⟨f, hf, h⟩ | ⟨hf, h⟩⟩
  · have hgrant : p.grant p.script.next.1 = .error (hangUp .connect) := by
      cases hx : p.script.next.1 with
      | none => rfl
      | some x => rw [grant, hrefuses x hx]
    rw [hgrant]
    refine ⟨_, _, h, rfl, iff_of_false Bool.false_ne_true ?_⟩
    rintro ⟨x, hx, hbreaks⟩
    exact hbreaks.1 (hrefuses x hx)
  · have hgrant : p.grant p.script.next.1 = .error f := by
      rw [hx, grant, hf]
      split <;> simp_all
    rw [hgrant]
    exact ⟨_, _, h, rfl, iff_of_true rfl ⟨x, hx, hconduct, by simp [hf]⟩⟩
  · have hgrant : p.grant p.script.next.1 = .ok (p.connectionFor x) := by
      rw [hx, grant, hf]
      split <;> simp_all
    rw [hgrant]
    refine ⟨_, _, h, rfl, iff_of_false Bool.false_ne_true ?_⟩
    rintro ⟨x', hx', hbreaks⟩
    cases hx.symm.trans hx'
    exact hbreaks.2 hf

/-! ## Switchboards -/

/-- A peer, and the connections that are held. A connection goes by its line: the number of
acquisitions before its own, the refused ones included. -/
structure Switchboard where
  peer : Peer
  lines : List (Option Connection) := []

namespace Switchboard

/-- What can be done: acquire a connection, or use one that is held. A write goes on as far as it is
given frames; one that has to wait goes on by another write. -/
inductive Move
  | acquire (target : Descriptor)
  | fire (line : Nat) (context : Context)
  | write (line : Nat) (polls : List FramePoll)
  | read (line : Nat)
  | close (line : Nat)
  | drop (line : Nat)

/-- What a move gives back. -/
inductive Answer
  | acquired (result : Except Failure Connection)
  | fired (result : Except Failure Unit)
  | wrote (written : Peer.Written)
  | read (reading : Reading)
  | done

/-- The connection that is held on a line. -/
def held? (s : Switchboard) (line : Nat) : Option Connection :=
  s.lines[line]?.join

/-- Uses the connection on a line. What is left of it goes back to the line. -/
def use (s : Switchboard) (line : Nat)
    (act : Connection → Answer × Peer × Option Connection) : Option (Answer × Switchboard) :=
  (s.held? line).map fun c =>
    let (answer, peer, rest) := act c
    (answer, { peer, lines := s.lines.set line rest })

/-- Makes a move. It cannot be made where nobody holds the connection. -/
def perform (s : Switchboard) : Move → Option (Answer × Switchboard)
  | .acquire target =>
    let (result, peer) := s.peer.acquire target
    some (.acquired result, { peer, lines := s.lines ++ [result.toOption] })
  | .fire line context => s.use line fun c =>
    let (result, peer) := s.peer.fire c context
    (.fired result, peer, some c)
  | .write line polls => s.use line fun c =>
    let (written, peer) := s.peer.write c polls
    (.wrote written, peer, some c)
  | .read line => s.use line fun c =>
    let (reading, rest) := c.read
    (.read reading, s.peer, some rest)
  | .close line => s.use line fun c =>
    let (rest, peer) := s.peer.close c
    (.done, peer, some rest)
  | .drop line => s.use line fun c => (.done, (s.peer.close c).2, none)

/-- The moves that were made, each with its answer. -/
abbrev Log := List (Move × Answer)

/-- What a peer and its connections come to by moves in any order. -/
inductive Reached (p : Peer) : Log → Switchboard → Prop
  | start : Reached p [] { peer := p }
  | step {log : Log} {s s' : Switchboard} {move : Move} {answer : Answer} (before : Reached p log s)
    (performs : s.perform move = some (answer, s')) : Reached p (log ++ [(move, answer)]) s'

/-! ## Moves -/

namespace Move

/-- The line that a move uses. -/
def line? : Move → Option Nat
  | acquire _ => none
  | fire line _ | write line _ | read line | close line | drop line => some line

/-- The target of an acquisition. -/
def target? : Move → Option Descriptor
  | acquire target => some target
  | _ => none

def reads (line : Nat) : Move → Bool
  | read other => other == line
  | _ => false

def closes (line : Nat) : Move → Bool
  | close other => other == line
  | _ => false

def drops (line : Nat) : Move → Bool
  | drop other => other == line
  | _ => false

end Move

namespace Log

/-- The targets of the acquisitions. -/
def targets (log : Log) : List Descriptor :=
  log.filterMap (·.1.target?)

/-- How often a line was read. -/
def reads (log : Log) (line : Nat) : Nat :=
  log.countP (·.1.reads line)

/-- Whether the connection of a line was closed by its holder. -/
def closes (log : Log) (line : Nat) : Bool :=
  log.any (·.1.closes line)

/-- Whether the connection of a line was dropped. -/
def drops (log : Log) (line : Nat) : Bool :=
  log.any (·.1.drops line)

end Log

variable {script : Script} {log : Log} {s s' : Switchboard} {move : Move} {answer : Answer}
  {line other : Nat} {c : Connection} {rest : Option Connection} {change : Attempt → Attempt}

/-! ## Steps -/

theorem line_lt_of_held? (h : s.held? line = some c) : line < s.lines.length := by
  have hline : s.lines[line]? = some (some c) := Option.join_eq_some_iff.1 h
  exact (List.getElem?_eq_some_iff.1 hline).1

/-- What is done with a connection by a move on its line: how the record is changed, and what is
left on the line. -/
inductive Uses (c : Connection) (line : Nat) :
    Move → Answer → (Attempt → Attempt) → Option Connection → Prop
  | fire {context : Context} {result : Except Failure Unit} {change : Attempt → Attempt}
    (keeps : Attempt.Keeps change) :
    Uses c line (.fire line context) (.fired result) change (some c)
  | write {polls : List FramePoll} {written : Peer.Written} {change : Attempt → Attempt}
    (keeps : Attempt.Keeps change) :
    Uses c line (.write line polls) (.wrote written) change (some c)
  | read : Uses c line (.read line) (.read c.read.1) id (some c.read.2)
  | close : Uses c line (.close line) .done Attempt.shut (some { c with closed := true })
  | drop : Uses c line (.drop line) .done Attempt.shut none

theorem Uses.line? (h : Uses c line move answer change rest) : move.line? = some line := by
  cases h <;> rfl

theorem Uses.heading (h : Uses c line move answer change rest) (a : Attempt) :
    (change a).heading = a.heading := by
  cases h with
  | fire keeps | write keeps => exact keeps.heading a
  | read | close | drop => rfl

theorem eq_of_use {act : Connection → Answer × Peer × Option Connection}
    (h : s.use line act = some (answer, s')) :
    ∃ c, s.held? line = some c ∧ answer = (act c).1 ∧
      s' = { peer := (act c).2.1, lines := s.lines.set line (act c).2.2 } := by
  obtain ⟨c, hc, h⟩ := Option.map_eq_some_iff.1 h
  cases h
  exact ⟨c, hc, rfl, rfl⟩

/-- All that a move can do: add a connection and its record, or change the record of the connection
that it uses. -/
theorem perform_cases (h : s.perform move = some (answer, s')) :
    (∃ target, move = .acquire target ∧ answer = .acquired (s.peer.acquire target).1 ∧
      s' = { peer := (s.peer.acquire target).2
             lines := s.lines ++ [(s.peer.acquire target).1.toOption] }) ∨
    ∃ line c change rest, s.held? line = some c ∧ Uses c line move answer change rest ∧
      s' = { peer := s.peer.record c change, lines := s.lines.set line rest } := by
  cases move with
  | acquire target =>
    cases h
    exact .inl ⟨target, rfl, rfl, rfl⟩
  | fire line context =>
    rw [perform] at h
    obtain ⟨c, hc, rfl, rfl⟩ := eq_of_use h
    obtain ⟨change, hchange, hkeeps⟩ := Peer.exists_change_fire s.peer c context
    exact .inr ⟨line, c, change, _, hc, .fire hkeeps, by rw [← hchange]⟩
  | write line polls =>
    rw [perform] at h
    obtain ⟨c, hc, rfl, rfl⟩ := eq_of_use h
    obtain ⟨change, hchange, hkeeps⟩ := Peer.exists_change_write s.peer c polls
    exact .inr ⟨line, c, change, _, hc, .write hkeeps, by rw [← hchange]⟩
  | read line =>
    rw [perform] at h
    obtain ⟨c, hc, rfl, rfl⟩ := eq_of_use h
    exact .inr ⟨line, c, _, _, hc, .read, by rw [Peer.record_id]⟩
  | close line =>
    rw [perform] at h
    obtain ⟨c, hc, rfl, rfl⟩ := eq_of_use h
    exact .inr ⟨line, c, _, _, hc, .close, rfl⟩
  | drop line =>
    rw [perform] at h
    obtain ⟨c, hc, rfl, rfl⟩ := eq_of_use h
    exact .inr ⟨line, c, _, _, hc, .drop, rfl⟩

theorem held?_set (hc : s.held? line = some c) {peer : Peer} :
    ({ peer, lines := s.lines.set line rest } : Switchboard).held? other =
      if other = line then rest else s.held? other := by
  have hlt := line_lt_of_held? hc
  unfold held?
  dsimp only
  rw [List.getElem?_set]
  by_cases h : line = other
  · subst h
    simp [hlt]
  · simp [h, Ne.symm h]

theorem held?_append {peer : Peer} :
    ({ peer, lines := s.lines ++ [rest] } : Switchboard).held? other =
      if other = s.lines.length then rest else s.held? other := by
  unfold held?
  dsimp only
  rcases Nat.lt_trichotomy other s.lines.length with hlt | rfl | hgt
  · rw [List.getElem?_append_left hlt, if_neg (by omega)]
  · simp
  · rw [List.getElem?_eq_none (by simp; omega), List.getElem?_eq_none (by omega),
      if_neg (by omega)]

/-! ## Logs -/

namespace Log

theorem targets_append :
    targets (log ++ [(move, answer)]) = log.targets ++ move.target?.toList := by
  cases h : move.target? <;> simp [targets, h]

theorem reads_append :
    reads (log ++ [(move, answer)]) line = log.reads line + (move.reads line).toNat := by
  cases h : move.reads line <;> simp [reads, h]

theorem closes_append :
    closes (log ++ [(move, answer)]) line = (log.closes line || move.closes line) := by
  simp [closes]

theorem drops_append :
    drops (log ++ [(move, answer)]) line = (log.drops line || move.drops line) := by
  simp [drops]

end Log

/-! ## Invariants -/

/-- What is known of the connection that is held on a line. -/
structure Holds (script : Script) (log : Log) (line : Nat) (c : Connection) : Prop where
  place : c.attempt = line
  exchange : script.exchange? line = some c.exchange
  closed : c.closed = log.closes line
  messages : c.closed = false →
    c.messages = c.exchange.conduct.messages.drop (log.reads line)

/-- When the record of a line is closed: when its holder has closed or dropped the connection, or
when the connection broke off before anybody held it. -/
def IsShut (script : Script) (log : Log) (line : Nat) : Prop :=
  log.closes line = true ∨ log.drops line = true ∨
    ∃ x, script.exchange? line = some x ∧ x.BreaksOff

/-- What moves in any order keep: the script has gone on by as many exchanges as there were
acquisitions, each of these has its record and its line, and no line was used before. -/
structure Served (script : Script) (log : Log) (s : Switchboard) : Prop where
  remains : ∀ n, s.peer.script.exchange? n = script.exchange? (log.targets.length + n)
  targets : s.peer.attempts.map (·.target) = log.targets
  lines : s.lines.length = log.targets.length
  used : ∀ move answer, (move, answer) ∈ log → ∀ line, move.line? = some line →
    line < log.targets.length
  held : ∀ line c, s.held? line = some c → Holds script log line c
  shut : ∀ line record, s.peer.attempts[line]? = some record →
    (record.closed = true ↔ IsShut script log line)

theorem length_attempts (h : Served script log s) :
    s.peer.attempts.length = log.targets.length := by
  rw [← h.targets, List.length_map]

theorem script_next (h : Served script log s) :
    s.peer.script.next.1 = script.exchange? log.targets.length := by
  rw [← Script.exchange?_zero, h.remains, Nat.add_zero]

/-- A move that does not use a line leaves no trace of that line in the log. -/
theorem log_of_line?_ne (log : Log) (answer : Answer) (h : move.line? ≠ some line) :
    Log.reads (log ++ [(move, answer)]) line = log.reads line ∧
      Log.closes (log ++ [(move, answer)]) line = log.closes line ∧
      Log.drops (log ++ [(move, answer)]) line = log.drops line := by
  rw [Log.reads_append, Log.closes_append, Log.drops_append]
  cases move <;>
    simp_all [Move.line?, Move.reads, Move.closes, Move.drops]

theorem Holds.of_line?_ne (h : Holds script log line c) (hne : move.line? ≠ some line) :
    Holds script (log ++ [(move, answer)]) line c := by
  obtain ⟨hreads, hcloses, -⟩ := log_of_line?_ne log answer hne
  exact ⟨h.place, h.exchange, by rw [hcloses, h.closed], by rw [hreads]; exact h.messages⟩

theorem isShut_of_line?_ne (hne : move.line? ≠ some line) :
    IsShut script (log ++ [(move, answer)]) line ↔ IsShut script log line := by
  obtain ⟨-, hcloses, hdrops⟩ := log_of_line?_ne log answer hne
  rw [IsShut, IsShut, hcloses, hdrops]

/-- Nothing was done on a line that does not exist yet. -/
theorem Served.unused (h : Served script log s) :
    log.reads log.targets.length = 0 ∧ log.closes log.targets.length = false ∧
      log.drops log.targets.length = false := by
  have hother : ∀ move answer, (move, answer) ∈ log → move.line? ≠ some log.targets.length :=
    fun move answer hmem hline => absurd (h.used move answer hmem _ hline) (Nat.lt_irrefl _)
  refine ⟨List.countP_eq_zero.2 ?_, List.any_eq_false.2 ?_, List.any_eq_false.2 ?_⟩
  all_goals
    rintro ⟨move, answer⟩ hmem
    have hne := hother move answer hmem
    cases move <;> simp_all [Move.line?, Move.reads, Move.closes, Move.drops]

/-! ## Preservation -/

theorem served_start {p : Peer} (fresh : p.attempts = []) : Served p.script [] { peer := p } where
  remains n := by simp [Log.targets]
  targets := by simp [fresh, Log.targets]
  lines := rfl
  used := by simp
  held line c h := by simp [held?] at h
  shut := by simp [fresh]

/-- A connection that was just acquired plays its exchange from the beginning. -/
theorem Served.holds_grant (h : Served script log s)
    (hc : s.peer.grant (script.exchange? log.targets.length) = .ok c) :
    Holds script log log.targets.length c := by
  obtain ⟨hreads, hcloses, -⟩ := h.unused
  obtain ⟨x, hx, rfl⟩ := Peer.eq_of_grant hc
  refine ⟨length_attempts h, hx, hcloses.symm, fun _ => ?_⟩
  rw [hreads]
  rfl

theorem Served.acquire (h : Served script log s) (target : Descriptor) :
    Served script (log ++ [(.acquire target, .acquired (s.peer.acquire target).1)])
      { peer := (s.peer.acquire target).2
        lines := s.lines ++ [(s.peer.acquire target).1.toOption] } := by
  obtain ⟨connected, record, hacquire, htarget, hclosed⟩ := s.peer.acquire_eq target
  obtain ⟨-, hcloses, hdrops⟩ := h.unused
  have hlength := length_attempts h
  have hne : ∀ line, (Move.acquire target).line? ≠ some line := fun line => nofun
  rw [script_next h] at hacquire hclosed
  rw [hacquire]
  generalize hgrant : s.peer.grant (script.exchange? log.targets.length) = result
  have htargets : Log.targets (log ++ [(.acquire target, .acquired result)]) =
      log.targets ++ [target] := Log.targets_append
  constructor
  · intro n
    rw [Peer.afterAcquisition, ← Script.exchange?_succ, h.remains, htargets, List.length_append]
    congr 1
    simp only [List.length_singleton]
    omega
  · simp [Peer.afterAcquisition, h.targets, htargets, htarget]
  · simp [h.lines, htargets]
  · intro move answer hmem line hline
    rw [htargets, List.length_append]
    rcases List.mem_append.1 hmem with hmem | hmem
    · exact Nat.lt_add_right 1 (h.used move answer hmem line hline)
    · cases List.mem_singleton.1 hmem
      cases hline
  · intro line c hc
    apply Holds.of_line?_ne _ (hne line)
    rw [held?_append, h.lines] at hc
    split at hc
    · next hline =>
      subst hline
      cases result with
      | error f => cases hc
      | ok d =>
        cases hc
        exact h.holds_grant hgrant
    · exact h.held line c hc
  · intro line a ha
    rw [isShut_of_line?_ne (hne line)]
    rw [Peer.afterAcquisition, List.getElem?_append] at ha
    split at ha
    · exact h.shut line a ha
    · rw [List.getElem?_singleton] at ha
      obtain ⟨hline, hrecord⟩ := Option.ite_none_right_eq_some.1 ha
      cases hrecord
      obtain rfl : line = log.targets.length := by omega
      rw [hclosed, IsShut, hcloses, hdrops]
      simp

/-- What a move leaves of a connection is what is known of it after the move. -/
theorem Uses.holds (h : Uses c line move answer change rest) (hc : Holds script log line c) :
    ∀ c' ∈ rest, Holds script (log ++ [(move, answer)]) line c' := by
  rintro c' hc'
  have hreads : Log.reads (log ++ [(move, answer)]) line =
      log.reads line + (move.reads line).toNat := Log.reads_append
  have hcloses : Log.closes (log ++ [(move, answer)]) line =
      (log.closes line || move.closes line) := Log.closes_append
  cases h with
  | fire keeps | write keeps =>
    cases hc'
    refine ⟨hc.place, hc.exchange, ?_, ?_⟩
    · rw [hcloses, hc.closed]
      exact (Bool.or_false _).symm
    · rw [hreads]
      exact hc.messages
  | read =>
    cases hc'
    have hsame : Log.closes (log ++ [(.read line, .read c.read.1)]) line = c.closed := by
      rw [hcloses, hc.closed]
      exact Bool.or_false _
    cases hclosed : c.closed with
    | true =>
      rw [Connection.read_of_closed hclosed] at hsame ⊢
      refine ⟨hc.place, hc.exchange, hsame.symm, fun hopen => ?_⟩
      exact absurd (hclosed.symm.trans hopen) nofun
    | false =>
      rw [Connection.read_of_open hclosed (hc.messages hclosed)] at hsame hreads ⊢
      refine ⟨hc.place, hc.exchange, hsame.symm, fun _ => ?_⟩
      rw [hreads]
      simp [Move.reads]
  | close =>
    cases hc'
    refine ⟨hc.place, hc.exchange, ?_, nofun⟩
    rw [hcloses]
    simp [Move.closes]
  | drop => cases hc'

theorem Uses.shut_iff (h : Uses c line move answer change rest) {a : Attempt}
    (ha : a.closed = true ↔ IsShut script log line) :
    (change a).closed = true ↔ IsShut script (log ++ [(move, answer)]) line := by
  rw [IsShut, Log.closes_append, Log.drops_append]
  cases h with
  | fire keeps | write keeps =>
    rw [keeps.closed, ha, IsShut]
    simp [Move.closes, Move.drops]
  | read =>
    rw [id, ha, IsShut]
    simp [Move.closes, Move.drops]
  | close | drop => simp [Attempt.shut, Move.closes, Move.drops]

theorem Served.use (h : Served script log s) (hc : s.held? line = some c)
    (huses : Uses c line move answer change rest) :
    Served script (log ++ [(move, answer)])
      { peer := s.peer.record c change, lines := s.lines.set line rest } := by
  have hline := huses.line?
  have hplace := (h.held line c hc).place
  have hne : ∀ other, other ≠ line → move.line? ≠ some other := by
    intro other hother
    rw [hline]
    simpa using hother.symm
  have htargets : Log.targets (log ++ [(move, answer)]) = log.targets := by
    rw [Log.targets_append]
    cases huses <;> exact List.append_nil _
  have hheadings := (Peer.sameAcquisitions_record (p := s.peer) (c := c) huses.heading).headings
  constructor
  · rw [htargets]
    exact h.remains
  · rw [htargets, ← h.targets, Peer.targets_eq, Peer.targets_eq, hheadings]
  · rw [htargets, List.length_set, h.lines]
  · rw [htargets]
    intro move' answer' hmem other hother
    rcases List.mem_append.1 hmem with hmem | hmem
    · exact h.used move' answer' hmem other hother
    · cases List.mem_singleton.1 hmem
      cases hline.symm.trans hother
      rw [← h.lines]
      exact line_lt_of_held? hc
  · intro other c' hc'
    rw [held?_set hc] at hc'
    split at hc'
    · next hother =>
      subst hother
      exact huses.holds (h.held other c hc) c' hc'
    · next hother => exact (h.held other c' hc').of_line?_ne (hne other hother)
  · intro other a ha
    rw [Peer.record, List.getElem?_modify, hplace] at ha
    obtain ⟨a', ha', hchange⟩ := Option.map_eq_some_iff.1 ha
    split at hchange
    · next hother =>
      subst hother hchange
      exact huses.shut_iff (h.shut line a' ha')
    · next hother =>
      cases hchange
      rw [isShut_of_line?_ne (hne other (Ne.symm hother))]
      exact h.shut other a ha'

theorem served_of_reached {p : Peer} (fresh : p.attempts = []) (h : Reached p log s) :
    Served p.script log s := by
  induction h with
  | start => exact served_start fresh
  | step before performs ih =>
    rcases perform_cases performs with ⟨target, rfl, rfl, rfl⟩ |
      ⟨line, c, change, rest, hc, huses, rfl⟩
    · exact ih.acquire target
    · exact ih.use hc huses

/-! ## Runs -/

/-- A move changes the record of its own line alone, and there neither the heading nor the mark of
being closed, once it is set. -/
theorem record_of_perform (h : Served script log s) (performs : s.perform move = some (answer, s'))
    {a : Attempt} (ha : s.peer.attempts[line]? = some a) :
    ∃ a', s'.peer.attempts[line]? = some a' ∧ a'.heading = a.heading ∧
      (a.closed = true → a'.closed = true) ∧ (move.line? ≠ some line → a' = a) := by
  rcases perform_cases performs with ⟨target, rfl, rfl, rfl⟩ |
    ⟨other, c, change, rest, hc, huses, rfl⟩
  · obtain ⟨connected, record, hacquire, -⟩ := s.peer.acquire_eq target
    refine ⟨a, ?_, rfl, id, fun _ => rfl⟩
    rw [hacquire, Peer.afterAcquisition, List.getElem?_append_left]
    · exact ha
    · exact (List.getElem?_eq_some_iff.1 ha).1
  · dsimp only
    rw [Peer.record, List.getElem?_modify, ha, (h.held other c hc).place, huses.line?]
    by_cases hline : other = line
    · refine ⟨change a, by simp [hline], huses.heading a, fun hclosed => ?_, fun hne => ?_⟩
      · cases huses with
        | fire keeps | write keeps => rw [keeps.closed, hclosed]
        | read => exact hclosed
        | close | drop => rfl
      · exact absurd (congrArg some hline) hne
    · exact ⟨a, by simp [hline], rfl, id, fun _ => rfl⟩

/-- **Connections side by side.** Whatever was done with a new peer and its connections, in any
order: the next acquisition gets the exchange whose turn it is, its connection comes on the next
line, and it adds one record, of its target, so that the records are those of the acquisitions, one
each. A move changes the record of its own line alone, and never opens one that is closed. A reading
of a connection gives the message that comes after those that were read on its line, the end after
the last one, and the end ever after it was closed. A record is closed just if its connection was
closed or dropped, or broke off. -/
theorem connections_side_by_side {p : Peer} (fresh : p.attempts = []) (h : Reached p log s) :
    (∀ target, ∃ s' record,
      s.perform (.acquire target) =
        some (.acquired (s.peer.grant (p.script.exchange? log.targets.length)), s') ∧
      s'.held? log.targets.length =
        (s.peer.grant (p.script.exchange? log.targets.length)).toOption ∧
      s'.peer.attempts = s.peer.attempts ++ [record] ∧ record.target = target) ∧
    s.peer.attempts.map (·.target) = log.targets ∧
    (∀ move answer s', s.perform move = some (answer, s') →
      ∀ line record, s.peer.attempts[line]? = some record →
        ∃ record', s'.peer.attempts[line]? = some record' ∧ record'.heading = record.heading ∧
          (record.closed = true → record'.closed = true) ∧
          (move.line? ≠ some line → record' = record)) ∧
    (∀ line c, s.held? line = some c →
      ∃ x s', p.script.exchange? line = some x ∧ s.perform (.read line) =
        some (.read (if log.closes line then .ended else x.reading (log.reads line)), s')) ∧
    ∀ line record, s.peer.attempts[line]? = some record →
      (record.closed = true ↔ IsShut p.script log line) := by
  have hserved := served_of_reached fresh h
  refine ⟨?_, hserved.targets, ?_, ?_, hserved.shut⟩
  · intro target
    obtain ⟨connected, record, hacquire, htarget, -⟩ := s.peer.acquire_eq target
    rw [script_next hserved] at hacquire
    refine ⟨{
      peer := s.peer.afterAcquisition connected record
      lines := s.lines ++ [(s.peer.grant (p.script.exchange? log.targets.length)).toOption] },
      record, ?_, ?_, rfl, htarget⟩
    · rw [perform, hacquire]
    · rw [held?_append, if_pos hserved.lines.symm]
  · intro move answer s' performs line record
    exact record_of_perform hserved performs
  · intro line c hc
    have hholds := hserved.held line c hc
    refine ⟨c.exchange, { s with lines := s.lines.set line (some c.read.2) }, hholds.exchange, ?_⟩
    have hread : c.read.1 =
        if log.closes line then .ended else c.exchange.reading (log.reads line) := by
      rw [← hholds.closed]
      cases hclosed : c.closed with
      | true => rw [Connection.read_of_closed hclosed]; rfl
      | false => rw [Connection.read_of_open hclosed (hholds.messages hclosed)]; rfl
    rw [perform, use, hc, ← hread]
    rfl

/-- A peer that answers, refuses and redirects. -/
def trio : Peer :=
  { script := .list [.ofStatus ⟨200⟩, { conduct := .refuse }, .ofStatus ⟨302⟩] }

theorem connections_side_by_side_trio : ∃ log s, trio.attempts = [] ∧ Reached trio log s ∧
    log.targets.length = 3 ∧
    (∃ s', s.perform (.read 2) = some (.read (.message .finished), s')) ∧
    ∃ s', s.perform (.read 0) = some (.read .ended, s') := by
  have hreached : ∃ log s, Reached trio log s ∧ log.targets.length = 3 ∧ log.closes 0 = true ∧
      log.closes 2 = false ∧ log.reads 2 = 1 ∧ (s.held? 0).isSome ∧ (s.held? 2).isSome :=
    ⟨_, _, .step (.step (.step (.step (.step (.step .start
      (rfl : Switchboard.perform _ (.acquire {}) = _))
      (rfl : Switchboard.perform _ (.acquire {}) = _))
      (rfl : Switchboard.perform _ (.acquire {}) = _))
      (rfl : Switchboard.perform _ (.read 0) = _))
      (rfl : Switchboard.perform _ (.read 2) = _))
      (rfl : Switchboard.perform _ (.close 0) = _), rfl, rfl, rfl, rfl, rfl, rfl⟩
  obtain ⟨log, s, h, hlength, hclosed, hopen, hreads, hfirst, hthird⟩ := hreached
  obtain ⟨c, hc⟩ := Option.isSome_iff_exists.1 hfirst
  obtain ⟨d, hd⟩ := Option.isSome_iff_exists.1 hthird
  obtain ⟨-, -, -, hread, -⟩ := connections_side_by_side rfl h
  obtain ⟨x, s₀, hx, hfirst⟩ := hread 0 c hc
  obtain ⟨y, s₂, hy, hthird⟩ := hread 2 d hd
  refine ⟨log, s, rfl, h, hlength, ⟨s₂, ?_⟩, s₀, ?_⟩
  · cases hy
    rw [hthird, hopen, hreads]
    rfl
  · rw [hfirst, hclosed]
    rfl

end Switchboard

end Courier
