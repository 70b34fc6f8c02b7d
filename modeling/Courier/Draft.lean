import Courier.Base64
import Courier.Client
import Courier.Web.Reference

/-!
# Drafts

A draft collects what a request is to have before its method and address are known: headers, a
query, a body, and settings that differ from those of the client. Input that cannot be used makes a
failure; the first one is kept, and the draft then gives no request.
-/

namespace Courier

/-! ## Media types -/

/-- The media types of the bodies that a draft can take. -/
inductive MediaType
  | json
  | form
  | octets
  | text
deriving DecidableEq, Repr

namespace MediaType

def toString : MediaType → String
  | json => "application/json"
  | form => "application/x-www-form-urlencoded"
  | octets => "application/octet-stream"
  | text => "text/plain"

/-- The media type as a header value. -/
def toValue : MediaType → FieldValue
  | json => { octets := Octets.ofString json.toString }
  | form => { octets := Octets.ofString form.toString }
  | octets => { octets := Octets.ofString octets.toString }
  | text => { octets := Octets.ofString text.toString }

end MediaType

/-! ## Drafts -/

/-- A draft of a request of a client (`RequestBuilder`). -/
structure Draft where
  client : Client
  fields : Fields := {}
  query : List (String × String) := []
  redirects : Option Redirect.Limit := none
  readTimeout : Option Duration := none
  failure : Option Failure := none
  body : Option Octets := none

namespace Draft

/-- Keeps a failure if it is the first one. -/
def fail (d : Draft) (f : Failure) : Draft :=
  { d with failure := d.failure <|> some f }

/-! ## Settings -/

/-- Sets the limit for redirects. -/
def followRedirects (d : Draft) (limit : Redirect.Limit) : Draft :=
  { d with redirects := some limit }

/-- Sets the longest wait for a head. -/
def withReadTimeout (d : Draft) (limit : Duration) : Draft :=
  { d with readTimeout := some limit }

/-- Adds a name and a value to the query of the address that the request will have (`query`). -/
def addQuery (d : Draft) (key value : String) : Draft :=
  { d with query := d.query ++ [(key, value)] }

/-! ## Headers -/

/-- Sets a header. -/
def setField (d : Draft) (name : FieldName) (value : FieldValue) : Draft :=
  { d with fields := d.fields.insert name value }

/-- Checks a name and a value and sets the header. -/
def header (d : Draft) (name : Octets) (value : RawValue) : Draft :=
  let read : Except Failure (FieldName × FieldValue) := do
    return (← FieldName.read name, ← value.read)
  match read with
  | .ok (name, value) => d.setField name value
  | .error f => d.fail f

/-- Says of which type the body is. -/
def contentType (d : Draft) (t : MediaType) : Draft :=
  d.setField .contentType t.toValue

/-- Says which media type is accepted. -/
def accept (d : Draft) (t : String) : Draft :=
  d.header (Octets.ofText FieldName.accept.text) (.octets (.ofString t))

/-- Names the program that asks. -/
def userAgent (d : Draft) (agent : String) : Draft :=
  d.header (Octets.ofText FieldName.userAgent.text) (.octets (.ofString agent))

/-! ## Credentials -/

/-- Sets a header to a value that is not to be shown (`sensitive`). -/
def credential (d : Draft) (name : FieldName) (value : String) : Draft :=
  match FieldValue.ofString? value with
  | some v => d.setField name v.hidden
  | none => d.fail (.ofCause .builder .credential)

/-- Sets a key for the service that is asked. -/
def apiKey (d : Draft) (key : String) : Draft :=
  d.credential .xApiKey key

/-- The written form of a user name and a password, of which a missing one is empty. -/
def basicCredentials (user : String) (password : Option String) : Text :=
  Base64.encode (Octets.ofString (user ++ ":" ++ password.getD ""))

/-- Sets user name and password. -/
def basicAuth (d : Draft) (user : String) (password : Option String) : Draft :=
  d.credential .authorization ("Basic " ++ String.ofList (basicCredentials user password))

/-- Sets a bearer token. -/
def bearerAuth (d : Draft) (token : String) : Draft :=
  d.credential .authorization ("Bearer " ++ token)

/-! ## Bodies -/

/-- Sets the body and its length, and its type if none has been set (`with_body`). -/
def withBody (d : Draft) (t : MediaType) (body : Octets) : Draft :=
  let d := if d.fields.contains FieldName.contentType.text then d else d.contentType t
  { d.setField .contentLength (.ofNat body.length) with body := some body }

/-- Sets a body of JSON (`json`). -/
def jsonBody (d : Draft) (value : Json) : Draft :=
  d.withBody .json (Octets.ofText value.toText)

/-- What becomes of a draft whose body should be an object with names that are not texts. -/
def unnamedBody (d : Draft) : Draft :=
  (d.fail (.ofCause .builder .jsonKey)).withBody .json []

/-- Sets a body that is the form of a JSON value (`form`). -/
def formBody (d : Draft) (value : Json) : Draft :=
  match Form.ofJson value with
  | .ok form => d.withBody .form (Octets.ofText form)
  | .error e => (d.fail (.ofCause .builder (.form e))).withBody .form []

/-- Sets a body that is the form of these pairs. -/
def pairsBody (d : Draft) (pairs : List (String × String)) : Draft :=
  d.withBody .form (Octets.ofText (Form.encodePairs pairs))

/-- Sets a body of octets (`raw_body`). -/
def octetsBody (d : Draft) (body : Octets) : Draft :=
  d.withBody .octets body

/-- Sets a body of text. -/
def textBody (d : Draft) (body : String) : Draft :=
  d.withBody .text (Octets.ofString body)

/-! ## Requests -/

/-- Adds pairs to the query of an address; without pairs the address stays as it is. -/
def extendQuery (a : Web.Address) (pairs : List (String × String)) : Web.Address :=
  if pairs.isEmpty then a else { a with query := some (Form.appendTo (a.query.getD []) pairs) }

/-- Sets the headers of a draft in a request, name by name. -/
def applyFields (h : Fields) (q : Request) : Except Failure Request :=
  h.names.foldlM (fun q name =>
    q.mapDescriptor (·.setHeaderValues (Octets.ofText name.text)
      ((h.getAll name.text).map .checked))) q

/-- The request for a method and an address (`into_request`). -/
def toRequest (d : Draft) (method : Method) (address : Text) : Except Failure Request := do
  if let some f := d.failure then throw f
  let address ← match Web.Address.parse address with
    | .ok a => pure (extendQuery a d.query)
    | .error e => throw (.ofCause .builder (.address e))
  let q ← d.client.request method address.toText
  let q ← applyFields d.fields q
  let q := match d.redirects with
    | some limit => q.followRedirects limit
    | none => q
  let q := match d.readTimeout with
    | some limit => q.withReadTimeout limit
    | none => q
  return match d.body with
    | some body => q.withContent { source := some (.once body) }
    | none => q

/-- Sends the request for a method and an address. -/
def send (d : Draft) (method : Method) (address : Text) (patience : Duration) :
    Ending Response × Client :=
  match d.toRequest method address with
  | .ok q => d.client.execute q patience
  | .error f => (.failed f, d.client)

/-- Asks for an address and reads the body of the response as JSON (`get_json`). The connection is
closed afterwards. -/
def getJson (d : Draft) (address : Text) (patience : Duration) : Ending Json × Client :=
  match d.send .get address patience with
  | (.done r, client) =>
    let client := { client with executor := client.executor.close r.connection }
    match r.bytes.1 with
    | .failed f => (.failed f, client)
    | .abandoned => (.abandoned, client)
    | .done body => match Json.read body with
      | .ok value => (.done value, client)
      | .error e => (.failed (.ofCause .body (.json e)), client)
  | (.failed f, client) => (.failed f, client)
  | (.abandoned, client) => (.abandoned, client)

/-! ## Inspection -/

/-- An octet as the inspection of a body shows it. -/
def inspectOctet (b : UInt8) : Text :=
  if b == 10 then ['\\', 'n']
  else if b == 13 then ['\\', 'r']
  else if b == 9 then ['\\', 't']
  else if b == 92 || b == 34 then ['\\', Char.ofNat b.toNat]
  else if b == 0 then ['\\', '0']
  else if 32 ≤ b && b < 127 then [Char.ofNat b.toNat]
  else ['\\', 'x', hexDigit (b.toNat / 16), hexDigit (b.toNat % 16)]

/-- Inspection text of a body. -/
def inspectBody : Option Octets → String
  | none => "BodyNotSet"
  | some body => Inspect.record "BodySet"
    [("content", "b\"" ++ String.ofList (body.flatMap inspectOctet) ++ "\"")]

instance : Inspect Draft where
  inspect d := Inspect.record "RequestBuilder"
    [("client", inspect d.client), ("headers", inspect d.fields), ("query", inspect d.query),
      ("redirects", inspect d.redirects), ("read_timeout", inspect d.readTimeout),
      ("error", inspect d.failure), ("state", inspectBody d.body)]

end Draft

end Courier
