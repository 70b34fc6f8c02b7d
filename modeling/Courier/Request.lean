import Courier.Executor

/-!
# Requests

A request is a descriptor with its content, the limit for redirects and the longest wait for a
head. It is a value: each change gives a new request, and it may be sent any number of times.
-/

namespace Courier

/-- A request that can be sent (`HttpClientRequest`). -/
structure Request where
  descriptor : Descriptor
  content : Content := {}
  redirects : Redirect.Limit := .disabled
  readTimeout : Option Duration := none

namespace Request

/-- Replaces the descriptor by a changed one; content, limit and timeout stay. -/
def mapDescriptor (q : Request) (change : Descriptor → Except Failure Descriptor) :
    Except Failure Request := do
  return { q with descriptor := ← change q.descriptor }

/-- Sets the limit for redirects. -/
def followRedirects (q : Request) (limit : Redirect.Limit) : Request :=
  { q with redirects := limit }

/-- Sets the longest wait for a head. -/
def withReadTimeout (q : Request) (limit : Duration) : Request :=
  { q with readTimeout := some limit }

/-- Attaches content. -/
def withContent (q : Request) (content : Content) : Request :=
  { q with content }

/-- Sends the request. Its own longest wait takes the place of the one of the executor. -/
def execute (q : Request) (e : Executor) (patience : Duration) : Ending Response × Executor :=
  let (ending, e') :=
    { e with readTimeout := q.readTimeout }.execute patience q.descriptor q.content
      q.redirects.budget
  (ending, { e' with readTimeout := e.readTimeout })

instance : Inspect Request where
  inspect q := Inspect.openRecord "HttpClientRequest"
    [("descriptor", inspect q.descriptor), ("content", inspect q.content),
      ("redirects", inspect q.redirects)]

end Request

end Courier
