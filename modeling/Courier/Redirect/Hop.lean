import Courier.Descriptor

/-!
# Hops

A hop asks for another target after a redirect. It keeps the request as it is, with three
exceptions: a status may turn the method into `GET`, and the headers that describe the content
then go; credentials are not taken to another host; and a `Host` header that is there names the
new host.
-/

namespace Courier

namespace Status

/-- Whether a status asks for the request to be made elsewhere (`is_redirect_status`). -/
def isRedirect (s : Status) : Bool :=
  [301, 302, 303, 307, 308].contains s.code

end Status

namespace Redirect

/-- The method of the hop after a status answered a method (`redirect_method`). -/
def methodAfter (s : Status) (m : Method) : Method :=
  if s.code == 303 && m != .head then .get
  else if (s.code == 301 || s.code == 302) && m == .post then .get
  else m

/-! ## Hosts -/

/-- The port that a target means: its own, or the usual one of its scheme
(`port_or_known_default`). -/
def effectivePort? (u : Uri) : Option Nat :=
  match u.port?, u.scheme? with
  | some port, _ => some port
  | none, some scheme =>
    if scheme == "https".toList then some 443
    else if scheme == "http".toList then some 80
    else none
  | none, none => none

/-- Whether two targets name the same host, whatever the case of its letters. -/
def sameHost (u v : Uri) : Bool :=
  match u.host?, v.host? with
  | some h, some k => h.sameLetters k
  | _, _ => false

/-- Whether a hop leaves the host or port of the request (`is_cross_host`). A target without a host
does not. -/
def isCrossHost (previous next : Uri) : Bool :=
  next.host?.isSome && !(sameHost previous next && effectivePort? previous == effectivePort? next)

/-! ## Headers -/

/-- The headers that describe content (`remove_content_headers`). -/
def contentFields : List FieldName :=
  [.contentLength, .contentType, .transferEncoding]

/-- The headers that hold credentials (`remove_sensitive_headers`). -/
def credentialFields : List FieldName :=
  [.authorization, .cookie, .cookie2, .proxyAuthorization, .wwwAuthenticate]

/-- A header list without these names. -/
def eraseAll (names : List FieldName) (h : Fields) : Fields :=
  names.foldl (fun h name => h.erase name.text) h

/-- Lets a `Host` header that is present name the host of a target (`rewrite_host`). -/
def renameHost (h : Fields) (target : Uri) : Fields :=
  if h.contains FieldName.host.text then
    match target.authority?.bind fun a => FieldValue.ofOctets? (Octets.ofText a.text) with
    | some value => h.insert .host value
    | none => h
  else h

/-! ## Requests -/

/-- The request of a hop, and whether it sends the content again (`NextHop`). -/
structure Hop where
  request : Descriptor
  keepsContent : Bool
deriving DecidableEq

/-- The hop to a target after a status (`next_hop`). -/
def nextHop (strips : Bool) (request : Descriptor) (status : Status) (target : Uri) : Hop :=
  let method := methodAfter status request.method
  let keepsContent := method == request.method
  let crosses := isCrossHost request.uri target
  let fields := if keepsContent then request.fields else eraseAll contentFields request.fields
  let fields := if strips && crosses then eraseAll credentialFields fields else fields
  let fields := if crosses then renameHost fields target else fields
  { request := { request with fields, uri := target, method }, keepsContent }

end Redirect

end Courier
