import Courier.Cookie
import Courier.HttpDate
import Courier.Protocol

/-!
# Request descriptors

A descriptor is what a request says before its content: version, method, target and header list.
It is a value, and each change gives a new one. A change that takes several header values makes
all of them or none.
-/

namespace Courier

/-- Version, method, target and header list of a request (`RequestDescriptor`). -/
structure Descriptor where
  version : Version := .http11
  method : Method := .get
  uri : Uri := .root
  fields : Fields := {}
deriving DecidableEq

/-- A header value as a caller gives it. -/
inductive RawValue
  | octets (octets : Octets)
  | number (value : Int)
  | checked (value : FieldValue)

/-- Checks a header value (`header_value`). -/
def RawValue.read : RawValue → Except Failure FieldValue
  | .octets o => match FieldValue.ofOctets? o with
    | some v => .ok v
    | none => .error (.ofCause .builder .fieldValue)
  | .number i => .ok (.ofInt i)
  | .checked v => .ok v

/-- Checks a header name (`header_name`). -/
def FieldName.read (name : Octets) : Except Failure FieldName :=
  match FieldName.ofOctets? name with
  | some n => .ok n
  | none => .error (.ofCause .builder .fieldName)

/-- Reads a target. -/
def Uri.read (t : Text) : Except Failure Uri :=
  match Uri.parse t with
  | .ok u => .ok u
  | .error e => .error (.ofCause .builder (.uri e))

namespace Descriptor

/-- A descriptor without headers whose target is still to be read. -/
def parse (version : Version) (method : Method) (uri : Text) : Except Failure Descriptor := do
  return { version, method, uri := ← Uri.read uri }

/-- Whether two descriptors ask for the same. -/
def same (d e : Descriptor) : Bool :=
  d.version == e.version && d.method == e.method && d.uri.same e.uri && d.fields.same e.fields

/-! ## Header changes -/

/-- The descriptor with a changed header list. -/
def withFields (d : Descriptor) (change : Fields → Fields) : Descriptor :=
  { d with fields := change d.fields }

/-- Adds a value of a name. -/
def addHeader (d : Descriptor) (name : Octets) (value : RawValue) : Except Failure Descriptor := do
  let name ← FieldName.read name
  let value ← value.read
  return d.withFields (·.append name value)

/-- Adds several values of a name. -/
def addHeaderValues (d : Descriptor) (name : Octets) (values : List RawValue) :
    Except Failure Descriptor := do
  let name ← FieldName.read name
  let values ← values.mapM RawValue.read
  return d.withFields (·.appendAll name values)

/-- Leaves a name with one value. -/
def setHeader (d : Descriptor) (name : Octets) (value : RawValue) : Except Failure Descriptor := do
  let name ← FieldName.read name
  let value ← value.read
  return d.withFields (·.insert name value)

/-- Leaves a name with exactly these values. -/
def setHeaderValues (d : Descriptor) (name : Octets) (values : List RawValue) :
    Except Failure Descriptor := do
  let name ← FieldName.read name
  let values ← values.mapM RawValue.read
  return d.withFields (·.replaceAll name values)

/-- Adds a date. -/
def addDateHeader (d : Descriptor) (name : Octets) (date : Instant) : Except Failure Descriptor :=
  d.addHeader name (.checked (HttpDate.toValue date))

/-- Adds several dates. -/
def addDateHeaders (d : Descriptor) (name : Octets) (dates : List Instant) :
    Except Failure Descriptor :=
  d.addHeaderValues name (dates.map fun date => .checked (HttpDate.toValue date))

/-- Leaves a name with one date. -/
def setDateHeader (d : Descriptor) (name : Octets) (date : Instant) : Except Failure Descriptor :=
  d.setHeader name (.checked (HttpDate.toValue date))

/-- Leaves a name with exactly these dates. -/
def setDateHeaders (d : Descriptor) (name : Octets) (dates : List Instant) :
    Except Failure Descriptor :=
  d.setHeaderValues name (dates.map fun date => .checked (HttpDate.toValue date))

/-- Drops all values of a name. -/
def removeHeader (d : Descriptor) (name : Text) : Descriptor :=
  d.withFields (·.erase name)

/-- Adds a cookie. -/
def addCookie (d : Descriptor) (name value : Text) : Except Failure Descriptor := do
  let value ← Cookie.encode name value
  return d.withFields (·.append .cookie value)

def keepAlive : FieldValue := { octets := Octets.ofString "keep-alive" }
def close : FieldValue := { octets := Octets.ofString "close" }
def chunked : FieldValue := { octets := Octets.ofString "chunked" }

/-- Asks for the connection to be kept or closed. A header says so only where the version alone
would not mean it. -/
def setKeepAlive (d : Descriptor) (keep : Bool) : Descriptor :=
  if keep == d.version.isPersistent then d.withFields (·.erase FieldName.connection.text)
  else d.withFields (·.insert .connection (if keep then keepAlive else close))

/-- Announces content of unknown length (`set_transfer_encoding_chunked`). -/
def setChunked (d : Descriptor) : Descriptor :=
  d.withFields fun h =>
    (h.insert .transferEncoding chunked).erase FieldName.contentLength.text

/-! ## Other changes -/

def setMethod (d : Descriptor) (m : Method) : Descriptor := { d with method := m }

def withUri (d : Descriptor) (u : Uri) : Descriptor := { d with uri := u }

def withVersion (d : Descriptor) (v : Version) : Descriptor := { d with version := v }

/-- Changes the target to one that is still to be read. -/
def setUri (d : Descriptor) (t : Text) : Except Failure Descriptor := do
  return d.withUri (← Uri.read t)

instance : Inspect Descriptor where
  inspect d := Inspect.record "RequestDescriptor"
    [("version", inspect d.version), ("method", inspect d.method), ("uri", d.uri.toString),
      ("headers", inspect d.fields)]

end Descriptor

end Courier
