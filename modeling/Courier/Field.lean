import Courier.Inspect
import Courier.Octets

/-!
# Header fields

A field name is a token in lower case. A field value is a sequence of octets without controls
other than the tab; it may be flagged sensitive, which hides it from inspection and changes
nothing else. Both are checked where they are made, so that a field that exists is well formed.
-/

namespace Courier

/-! ## Names -/

/-- Tokens of at most 65535 characters, in lower case. -/
def isFieldName (t : Text) : Bool :=
  !t.isEmpty && t.length ≤ 65535 && t.all (fun c => isTokenChar c && c.toLower == c)

/-- The name of a header field. -/
structure FieldName where
  text : Text
  isName : isFieldName text = true := by decide
deriving DecidableEq

namespace FieldName

/-- Reads a name in any case. -/
def ofText? (t : Text) : Option FieldName :=
  if h : isFieldName t.lower = true then some ⟨t.lower, h⟩ else none

/-- Reads a name from octets. -/
def ofOctets? (o : Octets) : Option FieldName :=
  ofText? o.toLatinText

/-- Whether `query` asks for this name, in whatever case. -/
def answers (n : FieldName) (query : Text) : Bool :=
  n.text == query.lower

def toString (n : FieldName) : String :=
  String.ofList n.text

instance : Inspect FieldName := ⟨fun n => inspect n.toString⟩

def accept : FieldName := { text := "accept".toList }
def authorization : FieldName := { text := "authorization".toList }
def connection : FieldName := { text := "connection".toList }
def contentLength : FieldName := { text := "content-length".toList }
def contentType : FieldName := { text := "content-type".toList }
def cookie : FieldName := { text := "cookie".toList }
def cookie2 : FieldName := { text := "cookie2".toList }
def host : FieldName := { text := "host".toList }
def location : FieldName := { text := "location".toList }
def proxyAuthorization : FieldName := { text := "proxy-authorization".toList }
def transferEncoding : FieldName := { text := "transfer-encoding".toList }
def userAgent : FieldName := { text := "user-agent".toList }
def wwwAuthenticate : FieldName := { text := "www-authenticate".toList }
def xApiKey : FieldName := { text := "x-api-key".toList }

end FieldName

/-! ## Values -/

/-- An octet that a field value may hold. -/
def isFieldOctet (b : UInt8) : Bool :=
  (32 ≤ b && b != 127) || b == 9

/-- The value of a header field. -/
structure FieldValue where
  octets : Octets
  sensitive : Bool := false
  isValue : octets.all isFieldOctet = true := by decide
deriving DecidableEq

namespace FieldValue

/-- Reads a value. -/
def ofOctets? (o : Octets) : Option FieldValue :=
  if h : o.all isFieldOctet = true then some { octets := o, isValue := h } else none

/-- Reads a value from a text. -/
def ofString? (s : String) : Option FieldValue :=
  ofOctets? (Octets.ofString s)

/-- The octet of a decimal digit. -/
def digitOctet (n : Nat) : UInt8 :=
  UInt8.ofNat (48 + n % 10)

theorem isFieldOctet_digitOctet (n : Nat) : isFieldOctet (digitOctet n) = true := by
  have h : ∀ m < 10, isFieldOctet (UInt8.ofNat (48 + m)) = true := by decide
  exact h (n % 10) (Nat.mod_lt n (by decide))

/-- The decimal octets of a number, most significant first, before what is there already. -/
def decimalOctets (n : Nat) (later : Octets) : Octets :=
  if n < 10 then digitOctet n :: later else decimalOctets (n / 10) (digitOctet n :: later)

theorem all_decimalOctets (n : Nat) (later : Octets) (h : later.all isFieldOctet = true) :
    (decimalOctets n later).all isFieldOctet = true := by
  fun_induction decimalOctets n later with
  | case1 n later => simp [isFieldOctet_digitOctet, h]
  | case2 n later _ ih => exact ih (by simp [isFieldOctet_digitOctet, h])

/-- A number in decimal. -/
def ofNat (n : Nat) : FieldValue :=
  { octets := decimalOctets n [], isValue := all_decimalOctets n [] rfl }

/-- An integer in decimal. -/
def ofInt : Int → FieldValue
  | .ofNat n => ofNat n
  | .negSucc n =>
    { octets := 45 :: decimalOctets (n + 1) []
      isValue := by simpa [isFieldOctet] using all_decimalOctets (n + 1) [] rfl }

/-- The same value, flagged sensitive. -/
def hidden (v : FieldValue) : FieldValue :=
  { v with sensitive := true }

/-- Whether two values have the same octets; the flag does not count. -/
def same (v w : FieldValue) : Bool :=
  v.octets == w.octets

/-- An octet that shows as an ASCII character. -/
def isVisible (b : UInt8) : Bool :=
  (32 ≤ b && b < 127) || b == 9

/-- The value as text, if all of it is visible ASCII. -/
def text? (v : FieldValue) : Option Text :=
  if v.octets.all isVisible then some v.octets.toLatinText else none

/-- An octet as an inspection shows it. -/
def inspectOctet (b : UInt8) : Text :=
  if b == 34 then "\\\"".toList
  else if isVisible b then [Char.ofNat b.toNat]
  else "\\x".toList ++ Nat.toDigits 16 b.toNat

instance : Inspect FieldValue where
  inspect v :=
    if v.sensitive then "Sensitive"
    else String.ofList ('"' :: v.octets.flatMap inspectOctet ++ ['"'])

end FieldValue

end Courier
