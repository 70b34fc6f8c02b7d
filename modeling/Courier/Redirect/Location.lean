import Courier.Protocol
import Courier.Descriptor
import Courier.Web.Reference

/-!
# Redirect locations

A redirect names its target by a reference in the `Location` header, to be resolved against the
target of the request. A request target without a host is first put on a host of no meaning; a
reference that is only a path then gives a target without a host again. Targets that are neither
`http` nor `https` are refused.
-/

namespace Courier.Redirect

open Web

/-- A rule that says where a response redirects a request to (`RedirectTargetResolver`). -/
abbrev Resolver := Descriptor → ResponseHead → Option Uri

/-- The address on which a target without a host is put (`ORIGIN_FORM_BASE`). -/
def placeholder : Address :=
  { scheme := "http".toList
    site := some { host := some (.domain "origin-form.invalid".toList) }
    path := .segments [[]] }

/-- Whether a target names a host. -/
def hasHost (u : Uri) : Bool :=
  u.scheme?.isSome && u.authority?.isSome

/-- The address against which a location is resolved. -/
def baseAddress? (current : Uri) : Option Address :=
  if hasHost current then (Address.parse current.toText).toOption
  else
    let path := current.pathAndQuery
    (placeholder.join (if path.isEmpty then ['/'] else path)).toOption

/-- Whether a location is a path, with neither scheme nor host (`is_path_reference`). -/
def isPathReference (location : Text) : Bool :=
  let network := match location with
    | a :: b :: _ => isSlash true a && isSlash true b
    | _ => false
  !network && match Address.parse location with
    | .error .relativeWithoutBase => true
    | _ => false

/-- Resolves a location against a request target (`resolve_location`). -/
def resolveLocation (current : Uri) (location : Text) : Option Uri := do
  let base ← baseAddress? current
  let next ← (base.join location).toOption
  if next.scheme == "http".toList || next.scheme == "https".toList then
    let text :=
      if !hasHost current && isPathReference location then
        Uri.joinQuery next.path.toText next.query
      else next.resourceText
    (Uri.parse text).toOption
  else none

/-- Blank and tab, which do not count at the ends of a location. -/
def isPadding (c : Char) : Bool :=
  c == ' ' || c == '\t'

/-- The location that a response gives. -/
def location? (head : ResponseHead) : Option Text := do
  let value ← head.fields.text? FieldName.location.text
  let location := Text.trim isPadding value
  if location.isEmpty then none else some location

/-- The resolver that follows the `Location` header (`LocationResolver`). -/
def byLocation : Resolver := fun request head => do
  resolveLocation request.uri (← location? head)

end Courier.Redirect
