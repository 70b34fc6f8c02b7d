import Courier.Descriptor

/-!
# Correlation

A correlator gives each attempt at a request an identity: an id of its own, and the container of
texts that belongs to that id. It counts how often it was asked for an id and how often for a
container. What it answers may depend on that count and on what it is asked about, and either answer
may be a failure.
-/

namespace Courier

/-! ## Containers -/

/-- Texts under names, in the order of the names (`ContextsContainer`). -/
structure Container where
  entries : List (String × String) := []
deriving DecidableEq, Repr

namespace Container

/-- Puts a text under a name into a list that is in order. -/
def insertEntry (key value : String) : List (String × String) → List (String × String)
  | [] => [(key, value)]
  | (k, v) :: rest =>
    if key < k then (key, value) :: (k, v) :: rest
    else if key = k then (key, value) :: rest
    else (k, v) :: insertEntry key value rest

/-- Puts a text under a name, in the place of the one that was there. -/
def insert (c : Container) (key value : String) : Container :=
  ⟨insertEntry key value c.entries⟩

/-- The text under a name. -/
def get? (c : Container) (key : String) : Option String :=
  (c.entries.find? (·.1 == key)).map (·.2)

def isEmpty (c : Container) : Bool := c.entries.isEmpty

/-- The container of these entries, of which the last of a name counts. -/
def ofList (entries : List (String × String)) : Container :=
  entries.foldl (fun c (key, value) => c.insert key value) {}

instance : Inspect Container where
  inspect c := Inspect.record "ContextsContainer"
    [("entries", "\x7b" ++ Inspect.commas (c.entries.map fun (k, v) => inspect k ++ ": " ++ inspect v)
      ++ "\x7d")]

end Container

/-- The identity of one attempt. -/
structure Context where
  requestId : String
  container : Container
deriving DecidableEq, Repr

instance : Inspect Context where
  inspect c := Inspect.record "CorrelationContext"
    [("request_id", inspect c.requestId), ("container", inspect c.container)]

/-! ## Correlators -/

/-- A source of identities (`RequestCorrelator`). `idFor n` is its answer when it is asked for an id
for the `n`-th time, counted from one, and `contextFor n` when it is asked for a container for the
`n`-th time. -/
structure Correlator where
  idFor : Nat → Descriptor → Except Failure String
  contextFor : Nat → String → Except Failure Container
  asked : Nat := 0
  consulted : Nat := 0

namespace Correlator

/-- Asks for an id (`request_id_for_attempt`). -/
def nextId (c : Correlator) (request : Descriptor) : Except Failure String × Correlator :=
  (c.idFor (c.asked + 1) request, { c with asked := c.asked + 1 })

/-- Asks for the container of an id (`context_for_id`). -/
def nextContext (c : Correlator) (id : String) : Except Failure Container × Correlator :=
  (c.contextFor (c.consulted + 1) id, { c with consulted := c.consulted + 1 })

/-- The correlator that takes its ids from a supply and answers with the containers that were bound
to them; an id to which nothing was bound has an empty one. -/
def ofSupply (supply : Nat → String) : Correlator where
  idFor n _ := .ok (supply n)
  contextFor _ _ := .ok {}

/-- Binds a container to an id. -/
def bind (c : Correlator) (id : String) (container : Container) : Correlator :=
  { c with contextFor := fun n asked => if asked = id then .ok container else c.contextFor n asked }

/-- The identity of an attempt: an id, then its container. Every failure is one of writing. -/
def identify (c : Correlator) (request : Descriptor) : Except Failure Context × Correlator :=
  match c.nextId request with
  | (.error f, c) => (.error (f.reclassify .write), c)
  | (.ok requestId, c) =>
    match c.nextContext requestId with
    | (.error f, c) => (.error (f.reclassify .write), c)
    | (.ok container, c) => (.ok { requestId, container }, c)

end Correlator

end Courier
