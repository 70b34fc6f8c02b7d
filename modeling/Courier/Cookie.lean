import Courier.Failure
import Courier.Field

/-!
# Request cookies

A cookie is a name and a value. The name is a token and the value a run of cookie octets, which
may stand between a pair of double quotes. `Cookie.encode` writes one for a `Cookie` header and
refuses what cannot be written without being read differently.
-/

namespace Courier

/-- Why a name and a value are not a cookie. -/
inductive CookieError
  | emptyName
  | badNameChar (c : Char)
  | badValueChar (c : Char)
deriving DecidableEq, Repr

/-- The wording of the reason. -/
def CookieError.message : CookieError → String
  | .emptyName => "cookie name cannot be empty"
  | .badNameChar c => "invalid character " ++ Inspect.quotedChar c ++ " in cookie name"
  | .badValueChar c => "invalid character " ++ Inspect.quotedChar c ++ " in cookie value"

namespace Cookie

/-- A visible ASCII character. -/
def isGraphic (c : Char) : Bool :=
  '!' ≤ c && c ≤ '~'

/-- A character of a cookie name (`is_token_char`). -/
def isNameChar (c : Char) : Bool :=
  isGraphic c && !"()<>@,;:\\\"/[]?=\x7b\x7d".toList.contains c

/-- A character of a cookie value (`is_cookie_octet`). -/
def isValueChar (c : Char) : Bool :=
  isGraphic c && !"\",;\\".toList.contains c

/-- The value without the pair of quotes around it, if there is one. -/
def unquote (value : Text) : Text :=
  match value with
  | '"' :: rest => if rest.getLast? == some '"' then rest.dropLast else value
  | _ => value

/-- Checks a name and a value (`validate_cookie`). -/
def validate (name value : Text) : Except CookieError Unit :=
  if name.isEmpty then .error .emptyName
  else match name.find? (!isNameChar ·) with
    | some c => .error (.badNameChar c)
    | none => match (unquote value).find? (!isValueChar ·) with
      | some c => .error (.badValueChar c)
      | none => .ok ()

/-- The field value `name=value` (`encode_strict`). -/
def encode (name value : Text) : Except Failure FieldValue :=
  match validate name value with
  | .error e => .error (.ofCause .builder (.invalidCookie e.message))
  | .ok () => match FieldValue.ofOctets? (Octets.ofText (name ++ '=' :: value)) with
    | some v => .ok v
    | none => .error (.ofCause .builder .fieldValue)

end Cookie

end Courier
